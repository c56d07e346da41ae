import ConfigSchema.Json.Decode
import ConfigSchema.Proofs.Members
import Mathlib.Data.List.Forall2

/-! # What decoding accepts

A record is read from the members of an object in their order, but each of its values comes from the
field of one name and from no other (`Slot`). So if no member is named twice, the record holds what
each of its fields reads as (`Slot.of_decode`), and it can be read exactly if each of them can
(`decodeMembers_isOk`). -/
namespace ConfigSchema

/-! ## Results -/

section
variable {ε ε' α β γ : Type}

theorem bind_eq_ok_iff {result : Except ε α} {next : α → Except ε β} {value : β} :
    result >>= next = .ok value ↔ ∃ first, result = .ok first ∧ next first = .ok value := by
  cases result with
  | error => simp [bind, Except.bind]
  | ok first => simp [bind, Except.bind]

theorem map_eq_ok_iff {result : Except ε α} {f : α → β} {value : β} :
    f <$> result = .ok value ↔ ∃ first, result = .ok first ∧ f first = value := by
  cases result with
  | error => simp [Functor.map, Except.map]
  | ok first => simp [Functor.map, Except.map]

theorem bind_pure_eq_map {result : Except ε α} {f : α → β} :
    (do let first ← result; return f first) = f <$> result := by
  cases result <;> rfl

theorem pure_eq_ok_iff {first value : α} :
    (pure first : Except ε α) = .ok value ↔ first = value := by
  simp [pure, Except.pure]

theorem mapError_eq_ok_iff {result : Except ε α} {f : ε → ε'} {value : α} :
    result.mapError f = .ok value ↔ result = .ok value := by
  cases result <;> simp [Except.mapError]

/-- Items are read one by one. -/
theorem mapM_eq_ok_iff {f : α → Except ε β} {items : List α} {values : List β} :
    items.mapM f = .ok values ↔
      List.Forall₂ (fun item value => f item = .ok value) items values := by
  induction items generalizing values with
  | nil =>
    rw [List.mapM_nil, pure_eq_ok_iff, List.forall₂_nil_left_iff]
    exact eq_comm
  | cons item rest ih =>
    simp only [List.mapM_cons, bind_eq_ok_iff, pure_eq_ok_iff, ih, List.forall₂_cons_left_iff]
    constructor
    · rintro ⟨value, own, values', later, rfl⟩
      exact ⟨value, values', own, later, rfl⟩
    · rintro ⟨value, values', own, later, rfl⟩
      exact ⟨value, own, values', later, rfl⟩

/-- Every item can be read exactly if all of them can be read together. -/
theorem exists_forall₂_iff {R : α → β → Prop} {items : List α} :
    (∃ values, List.Forall₂ R items values) ↔ ∀ item ∈ items, ∃ value, R item value := by
  induction items with
  | nil => simp
  | cons item rest ih =>
    rw [List.forall_mem_cons, ← ih]
    constructor
    · rintro ⟨_, own | ⟨own, later⟩⟩
      exact ⟨⟨_, own⟩, ⟨_, later⟩⟩
    · rintro ⟨⟨value, own⟩, ⟨values, later⟩⟩
      exact ⟨value :: values, .cons own later⟩

/-- Every value was read from an item. -/
theorem exists_mem_of_forall₂ {R : α → β → Prop} {items : List α} {values : List β}
    (all : List.Forall₂ R items values) {value : β} (mem : value ∈ values) :
    ∃ item ∈ items, R item value := by
  induction all with
  | nil => cases mem
  | cons own _ ih =>
    rcases List.mem_cons.1 mem with rfl | later
    · exact ⟨_, List.mem_cons_self, own⟩
    · obtain ⟨item, item_mem, read⟩ := ih later
      exact ⟨item, List.mem_cons_of_mem _ item_mem, read⟩

/-- What is asked of the values besides can be asked apart. -/
theorem forall₂_and_right_iff {R : α → β → Prop} {P : β → Prop} {items : List α}
    {values : List β} :
    List.Forall₂ (fun item value => R item value ∧ P value) items values ↔
      List.Forall₂ R items values ∧ ∀ value ∈ values, P value := by
  induction values generalizing items with
  | nil => simp
  | cons value rest ih =>
    simp only [List.forall₂_cons_right_iff, ih, List.forall_mem_cons]
    constructor
    · rintro ⟨item, items', ⟨own, holds⟩, ⟨later, all⟩, rfl⟩
      exact ⟨⟨item, items', own, later, rfl⟩, holds, all⟩
    · rintro ⟨⟨item, items', own, later, rfl⟩, holds, all⟩
      exact ⟨item, items', ⟨own, holds⟩, ⟨later, all⟩, rfl⟩

end

/-! ## Single values -/

namespace Json

variable {α : Type}

theorem mistyped_ne_ok {document : Json} {expected : Expected} {value : α} :
    document.mistyped expected ≠ (.ok value : Decoded α) := by
  simp [mistyped]

theorem toText_eq_ok_iff {document : Json} {text : String} :
    document.toText = .ok text ↔ document = .string text := by
  cases document <;> simp [toText, mistyped_ne_ok]

theorem toFlag_eq_ok_iff {document : Json} {flag : Bool} :
    document.toFlag = .ok flag ↔ document = .bool flag := by
  cases document <;> simp [toFlag, mistyped_ne_ok]

theorem toMembers_eq_ok_iff {document : Json} {members : Members Json} :
    document.toMembers = .ok members ↔
      ∃ given, document = .object given ∧ Members.sorted (canonicalMembers given) = members := by
  cases document <;> simp [toMembers, mistyped_ne_ok]

theorem toLength_eq_ok_iff {document : Json} {length : UInt64} :
    document.toLength = .ok length ↔
      ∃ n : Integer64, document = .number (.integer n) ∧ 0 ≤ n.val ∧
        UInt64.ofNat n.val.toNat = length := by
  cases document with
  | number value =>
    cases value with
    | integer n =>
      by_cases h : n.val < 0
      · simp [toLength, h, Int.not_le.2 h]
      · simp [toLength, h, Int.not_lt.1 h]
    | double => simp [toLength, mistyped_ne_ok]
  | null | bool | string | array | object => simp [toLength, mistyped_ne_ok]

theorem toBound_eq_ok_iff {document : Json} {bound : ExtendedDouble} :
    document.toBound = .ok bound ↔
      ∃ value, document = .number value ∧ ExtendedDouble.finite value.toDouble = bound := by
  cases document <;> simp [toBound, mistyped_ne_ok]

theorem toList_eq_ok_iff {item : Json → Decoded α} {document : Json} {values : List α} :
    document.toList item = .ok values ↔
      ∃ items, document = .array items ∧
        List.Forall₂ (fun entry value => item entry = .ok value) items values := by
  cases document <;> simp [toList, mistyped_ne_ok, mapM_eq_ok_iff]

/-- An array of strings. -/
theorem toList_toText_eq_ok_iff {document : Json} {texts : List String} :
    document.toList toText = .ok texts ↔ document = strings texts := by
  have items_iff : ∀ {items : List Json} {texts : List String},
      List.Forall₂ (fun entry text => entry.toText = .ok text) items texts ↔
        items = texts.map string := by
    intro items texts
    simp only [toText_eq_ok_iff]
    induction texts generalizing items with
    | nil => simp
    | cons text rest ih => simp [List.forall₂_cons_right_iff, ih]
  simp only [toList_eq_ok_iff, items_iff, exists_eq_right, strings]

/-- A value that may be null. -/
theorem toOption_eq_ok_iff {read : Json → Decoded α} {document : Json} {value : Option α} :
    document.toOption read = .ok value ↔
      document = .null ∧ value = none ∨
        document ≠ .null ∧ ∃ given, read document = .ok given ∧ some given = value := by
  cases document with
  | null => simp [toOption, eq_comm]
  | bool | number | string | array | object => simp [toOption, map_eq_ok_iff]

theorem require_eq_ok_iff {key : String} {found : Option α} {value : α} :
    require key found = .ok value ↔ found = some value := by
  cases found <;> simp [require]

end Json

/-! ## Fields -/

namespace Members

variable {β γ : Type}

/-- What the field of a name reads as; without the field, a fixed value. -/
def readField (members : Members β) (key : String) (read : β → Decoded γ) (absent : γ) :
    Decoded γ :=
  match members.get? key with
  | some document => read document
  | none => .ok absent

theorem readField_of_get? {members : Members β} {key : String} {document : β}
    (found : members.get? key = some document) (read : β → Decoded γ) (absent : γ) :
    members.readField key read absent = read document := by
  rw [readField, found]

theorem readField_of_absent {members : Members β} {key : String}
    (found : members.get? key = none) (read : β → Decoded γ) (absent : γ) :
    members.readField key read absent = .ok absent := by
  rw [readField, found]

theorem readField_cons_self {key : String} {document : β} {rest : Members β}
    {read : β → Decoded γ} {absent : γ} :
    readField ((key, document) :: rest) key read absent = read document := by
  rw [readField, get?_cons, if_pos rfl]

theorem readField_cons_of_ne {name key : String} (different : name ≠ key) {document : β}
    {rest : Members β} {read : β → Decoded γ} {absent : γ} :
    readField ((name, document) :: rest) key read absent = rest.readField key read absent := by
  rw [readField, get?_cons, if_neg different, readField]

/-- A field can be read if it is absent or its document can be read. -/
theorem readField_isOk_iff {members : Members β} {key : String} {read : β → Decoded γ}
    {absent : γ} :
    (∃ value, members.readField key read absent = .ok value) ↔
      ∀ document ∈ members.get? key, ∃ value, read document = .ok value := by
  cases found : members.get? key with
  | none => simp [readField_of_absent found]
  | some document => simp [readField_of_get? found]

end Members

/-! ## Records -/

section
variable {σ β γ : Type} {field : σ → String → β → Option (Decoded σ)}

/-- Which names were seen matters only for names that come again. -/
theorem decodeMembers_congr_seen {members : Members β} {seen seen' : List String}
    (same : ∀ name ∈ members.map Prod.fst, name ∈ seen ↔ name ∈ seen') (record : σ) :
    Json.decodeMembers field seen record members =
      Json.decodeMembers field seen' record members := by
  induction members generalizing seen seen' record with
  | nil => rfl
  | cons member rest ih =>
    obtain ⟨name, document⟩ := member
    rw [List.map_cons, List.forall_mem_cons] at same
    have seen_eq : seen.contains name = seen'.contains name := by simpa using same.1
    have sameLater : ∀ later ∈ rest.map Prod.fst, later ∈ name :: seen ↔ later ∈ name :: seen' := by
      intro later mem
      rw [List.mem_cons, List.mem_cons, same.2 later mem]
    rw [Json.decodeMembers, Json.decodeMembers, seen_eq]
    simp only [ih same.2, ih sameLater]

/-- One member is passed over, or else read into the record. -/
theorem decodeMembers_cons_eq_ok_iff {name : String} {document : β} {rest : Members β}
    (fresh : name ∉ rest.map Prod.fst) {record final : σ} :
    Json.decodeMembers field [] record ((name, document) :: rest) = .ok final ↔
      field record name document = none ∧ Json.decodeMembers field [] record rest = .ok final ∨
      ∃ next, field record name document = some (.ok next) ∧
        Json.decodeMembers field [] next rest = .ok final := by
  have forget : ∀ record, Json.decodeMembers field [name] record rest =
      Json.decodeMembers field [] record rest := by
    refine decodeMembers_congr_seen fun later mem => ?_
    have other : later ≠ name := fun same => fresh (same ▸ mem)
    simp [other]
  rw [Json.decodeMembers]
  cases field record name document with
  | none => simp
  | some result =>
    cases result with
    | error => simp
    | ok next => simp [forget]

/-- A record passes over all members but those of some names. -/
structure Knows (field : σ → String → β → Option (Decoded σ)) (keys : List String) : Prop where
  mem : ∀ {record name document}, field record name document ≠ none → name ∈ keys

/-- A record can be read if each field that it knows can be read, whatever was read before. -/
theorem decodeMembers_isOk {members : Members β} (nodup : (members.map Prod.fst).Nodup)
    {keys : List String} (knows : Knows field keys)
    (fits : ∀ key ∈ keys, ∀ document ∈ members.get? key,
      ∀ record reason, field record key document ≠ some (.error reason))
    (record : σ) : ∃ final, Json.decodeMembers field [] record members = .ok final := by
  induction members generalizing record with
  | nil => exact ⟨record, rfl⟩
  | cons member rest ih =>
    obtain ⟨name, document⟩ := member
    obtain ⟨fresh, nodupRest⟩ := List.nodup_cons.1 nodup
    have fitsRest : ∀ key ∈ keys, ∀ document ∈ Members.get? rest key,
        ∀ record reason, field record key document ≠ some (.error reason) := by
      intro key mem later found
      have other : name ≠ key := by
        rintro rfl
        rw [(Members.get?_eq_none_iff rest name).2 fresh] at found
        cases found
      exact fits key mem later (by rwa [Members.get?_cons, if_neg other])
    cases taken : field record name document with
    | none =>
      obtain ⟨final, decoded⟩ := ih nodupRest fitsRest record
      exact ⟨final, (decodeMembers_cons_eq_ok_iff fresh).2 (.inl ⟨taken, decoded⟩)⟩
    | some result =>
      have mem : name ∈ keys := knows.mem (by rw [taken]; exact Option.some_ne_none result)
      cases result with
      | error reason =>
        exact absurd taken (fits name mem document (by simp [Members.get?_cons]) record reason)
      | ok next =>
        obtain ⟨final, decoded⟩ := ih nodupRest fitsRest next
        exact ⟨final, (decodeMembers_cons_eq_ok_iff fresh).2 (.inr ⟨next, taken, decoded⟩)⟩

/-! ## Slots -/

/-- One value of a record comes from the field of one name: that field sets it to what its document
reads as, and no other field touches it. -/
structure Slot (field : σ → String → β → Option (Decoded σ)) (key : String)
    (read : β → Decoded γ) (value : σ → γ) : Prop where
  own : ∀ record document, ∃ set : γ → σ,
    field record key document = some (set <$> read document) ∧ ∀ given, value (set given) = given
  other : ∀ {record record' name document}, name ≠ key →
    field record name document = some (.ok record') → value record' = value record

section
variable {key : String} {read : β → Decoded γ} {value : σ → γ} {members : Members β}

/-- A record that was read holds in each slot what the field of the slot reads as. -/
theorem Slot.of_decode (slot : Slot field key read value)
    (nodup : (members.map Prod.fst).Nodup) {record final : σ}
    (decoded : Json.decodeMembers field [] record members = .ok final) :
    members.readField key read (value record) = .ok (value final) := by
  induction members generalizing record with
  | nil =>
    cases decoded
    rfl
  | cons member rest ih =>
    obtain ⟨name, document⟩ := member
    obtain ⟨fresh, nodupRest⟩ := List.nodup_cons.1 nodup
    rw [decodeMembers_cons_eq_ok_iff fresh] at decoded
    by_cases h : name = key
    · subst h
      obtain ⟨set, set_eq, value_set⟩ := slot.own record document
      have absent : Members.get? rest name = none := (Members.get?_eq_none_iff rest name).2 fresh
      rw [Members.readField_cons_self]
      rcases decoded with ⟨unknown, _⟩ | ⟨next, taken, later⟩
      · rw [set_eq] at unknown
        cases unknown
      · rw [set_eq, Option.some.injEq, map_eq_ok_iff] at taken
        obtain ⟨given, read_eq, rfl⟩ := taken
        -- The field is the last of its name, so what it sets stays.
        have stays := ih nodupRest later
        rw [Members.readField_of_absent absent, value_set] at stays
        rw [read_eq, stays]
    · rw [Members.readField_cons_of_ne h]
      rcases decoded with ⟨_, later⟩ | ⟨next, taken, later⟩
      · exact ih nodupRest later
      · rw [← slot.other h taken]
        exact ih nodupRest later

/-- A field that can be read does not fail. -/
theorem Slot.fits (slot : Slot field key read value) {absent given : γ}
    (readable : members.readField key read absent = .ok given) :
    ∀ document ∈ members.get? key, ∀ record reason,
      field record key document ≠ some (.error reason) := by
  intro document found record reason failed
  obtain ⟨set, set_eq, _⟩ := slot.own record document
  rw [Members.readField_of_get? found] at readable
  rw [set_eq, readable] at failed
  simp [Functor.map, Except.map] at failed

end

/-- What a record holds after reading, slot by slot. -/
inductive Slots (field : σ → String → β → Option (Decoded σ)) (members : Members β) (start : σ) :
    List String → (σ → Prop) → Prop
  | nil : Slots field members start [] fun _ => True
  | cons {γ : Type} {key : String} {read : β → Decoded γ} {value : σ → γ} {keys : List String}
      {holds : σ → Prop} (slot : Slot field key read value)
      (slots : Slots field members start keys holds) :
      Slots field members start (key :: keys) fun final =>
        members.readField key read (value start) = .ok (value final) ∧ holds final

section
variable {members : Members β} {start : σ} {keys : List String} {holds : σ → Prop}

theorem Slots.of_decode (slots : Slots field members start keys holds)
    (nodup : (members.map Prod.fst).Nodup) {final : σ}
    (decoded : Json.decodeMembers field [] start members = .ok final) : holds final := by
  induction slots with
  | nil => trivial
  | cons slot _ ih => exact ⟨slot.of_decode nodup decoded, ih⟩

theorem Slots.fits (slots : Slots field members start keys holds) {final : σ}
    (wanted : holds final) :
    ∀ key ∈ keys, ∀ document ∈ members.get? key,
      ∀ record reason, field record key document ≠ some (.error reason) := by
  induction slots with
  | nil => simp
  | cons slot _ ih => exact List.forall_mem_cons.2 ⟨slot.fits wanted.1, ih wanted.2⟩

/-- **What a record is read as.** If its slots are all it has, they decide both whether it can be
read and what it is. -/
theorem Slots.decode_eq_ok_iff (slots : Slots field members start keys holds)
    (nodup : (members.map Prod.fst).Nodup) (knows : Knows field keys)
    (unique : ∀ final final', holds final → holds final' → final = final') {final : σ} :
    Json.decodeMembers field [] start members = .ok final ↔ holds final := by
  refine ⟨slots.of_decode nodup, fun wanted => ?_⟩
  obtain ⟨read, decoded⟩ := decodeMembers_isOk nodup knows (slots.fits wanted) start
  rw [decoded, unique read final (slots.of_decode nodup decoded) wanted]

end

/-! ## Fields told apart by name

A record that compares a name with those of its fields, one after another, knows these names and
has a slot for each of them. -/

theorem Knows.nil : Knows (fun (_ : σ) (_ : String) (_ : β) => none) [] where
  mem taken := absurd rfl taken

theorem Knows.cons {rest : σ → String → β → Option (Decoded σ)} {first : String}
    {readFirst : σ → β → Decoded σ} {keys : List String} (knows : Knows rest keys) :
    Knows (fun record name document =>
      if name = first then some (readFirst record document) else rest record name document)
      (first :: keys) where
  mem {record name document} taken := by
    by_cases h : name = first
    · exact h ▸ List.mem_cons_self
    · rw [if_neg h] at taken
      exact List.mem_cons_of_mem _ (knows.mem taken)

/-- No field touches a value of a record. -/
structure Keeps (field : σ → String → β → Option (Decoded σ)) (value : σ → γ) : Prop where
  kept : ∀ {record record' name document},
    field record name document = some (.ok record') → value record' = value record

section
variable {δ : Type} {rest : σ → String → β → Option (Decoded σ)} {key first : String}
  {read : β → Decoded γ} {readFirst : β → Decoded δ} {set : σ → γ → σ} {setFirst : σ → δ → σ}
  {value : σ → γ}

theorem Keeps.nil : Keeps (fun (_ : σ) (_ : String) (_ : β) => none) value where
  kept taken := by cases taken

theorem Keeps.cons (set_keeps : ∀ record given, value (setFirst record given) = value record)
    (keeps : Keeps rest value) :
    Keeps (fun record name document =>
      if name = first then some (do return setFirst record (← readFirst document))
      else rest record name document) value where
  kept {record record' name document} taken := by
    split at taken
    · rw [Option.some.injEq, bind_pure_eq_map, map_eq_ok_iff] at taken
      obtain ⟨given, -, rfl⟩ := taken
      exact set_keeps record given
    · exact keeps.kept taken

/-- The slot of the field that is looked for first. -/
theorem Slot.here (value_set : ∀ record given, value (set record given) = given)
    (keeps : Keeps rest value) :
    Slot (fun record name document =>
      if name = key then some (do return set record (← read document))
      else rest record name document) key read value where
  own record document := ⟨set record, by rw [if_pos rfl, bind_pure_eq_map], value_set record⟩
  other h taken := by
    rw [if_neg h] at taken
    exact keeps.kept taken

/-- The slot of a field that is looked for later. -/
theorem Slot.there (set_keeps : ∀ record given, value (setFirst record given) = value record)
    (different : key ≠ first) (slot : Slot rest key read value) :
    Slot (fun record name document =>
      if name = first then some (do return setFirst record (← readFirst document))
      else rest record name document) key read value where
  own record document := by
    obtain ⟨set, set_eq, value_set⟩ := slot.own record document
    exact ⟨set, by rw [if_neg different, set_eq], value_set⟩
  other {record record' name document} h taken := by
    split at taken
    · rw [Option.some.injEq, bind_pure_eq_map, map_eq_ok_iff] at taken
      obtain ⟨given, -, rfl⟩ := taken
      exact set_keeps record given
    · exact slot.other h taken

/-- The only slot of a record that is itself the value of its only field. -/
theorem Slot.sole {σ β : Type} {key : String} {read : β → Decoded σ} :
    Slot (fun (_ : σ) name document => if name = key then some (read document) else none)
      key read id where
  own _ _ := ⟨id, by rw [if_pos rfl, id_map], fun _ => rfl⟩
  other h taken := by
    rw [if_neg h] at taken
    cases taken

end

end

end ConfigSchema
