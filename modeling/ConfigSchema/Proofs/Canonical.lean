import ConfigSchema.Kind
import ConfigSchema.Proofs.Members
import Mathlib.Data.List.Nodup

/-! # Canonical documents

The canonical form of a document is canonical (`Json.isCanonical_canonical`), and a canonical
document is its own canonical form (`Json.IsCanonical.canonical_eq`). -/
namespace ConfigSchema

/-! ## Ascending names -/

namespace Members

variable {α : Type}

/-- Each name is less than all later ones. -/
def Ascending (members : Members α) : Prop := (members.map Prod.fst).Pairwise (· < ·)

instance (members : Members α) : Decidable members.Ascending :=
  inferInstanceAs (Decidable (List.Pairwise _ _))

theorem Ascending.nodup {members : Members α} (ascending : members.Ascending) :
    (members.map Prod.fst).Nodup := by
  refine List.Pairwise.imp ?_ ascending
  rintro name _ less rfl
  exact String.lt_irrefl name less

theorem ascending_cons {name : String} {entry : α} {rest : Members α} :
    Ascending ((name, entry) :: rest) ↔
      (∀ later ∈ rest.map Prod.fst, name < later) ∧ Ascending rest := by
  rw [Ascending, List.map_cons, List.pairwise_cons, Ascending]

theorem names_replace (key : String) (entry : α) (members : Members α) :
    (members.replace key entry).map Prod.fst = members.map Prod.fst := by
  induction members with
  | nil => rfl
  | cons member rest ih =>
    obtain ⟨name, old⟩ := member
    rw [replace]
    split
    · rfl
    · rw [List.map_cons, List.map_cons, ih]

theorem mem_names_place {key : String} {entry : α} {members : Members α} {name : String} :
    name ∈ (members.place key entry).map Prod.fst ↔ name = key ∨ name ∈ members.map Prod.fst := by
  induction members with
  | nil => simp [place]
  | cons member rest ih =>
    obtain ⟨first, old⟩ := member
    rw [place]
    split
    · simp
    · rw [List.map_cons, List.mem_cons, ih, List.map_cons, List.mem_cons, or_left_comm]

theorem ascending_place {members : Members α} (ascending : members.Ascending) {key : String}
    (fresh : key ∉ members.map Prod.fst) (entry : α) : (members.place key entry).Ascending := by
  induction members with
  | nil => simp [place, Ascending]
  | cons member rest ih =>
    obtain ⟨name, old⟩ := member
    obtain ⟨least, ascendingRest⟩ := ascending_cons.1 ascending
    rw [List.map_cons, List.mem_cons, not_or] at fresh
    rw [place]
    split
    · rename_i first
      refine ascending_cons.2 ⟨?_, ascending⟩
      rw [List.map_cons, List.forall_mem_cons]
      exact ⟨first, fun later mem => String.lt_trans first (least later mem)⟩
    · rename_i notFirst
      have later : name < key := by
        refine Decidable.byContradiction fun notLater => fresh.1 ?_
        exact String.le_antisymm (String.not_lt.1 notLater) (String.not_lt.1 notFirst)
      refine ascending_cons.2 ⟨fun other mem => ?_, ih ascendingRest fresh.2⟩
      rcases mem_names_place.1 mem with rfl | mem
      · exact later
      · exact least other mem

theorem ascending_insert {members : Members α} (ascending : members.Ascending) (key : String)
    (entry : α) : (members.insert key entry).Ascending := by
  rw [insert]
  split
  · rwa [Ascending, names_replace]
  · rename_i absent
    have fresh : key ∉ members.map Prod.fst := by
      rw [← get?_eq_none_iff]
      simpa [has_eq_isSome] using absent
    exact ascending_place ascending fresh entry

theorem ascending_foldl_insert (members : Members α) {done : Members α}
    (ascending : done.Ascending) :
    Ascending (members.foldl (fun done member => done.insert member.1 member.2) done) := by
  induction members generalizing done with
  | nil => exact ascending
  | cons member rest ih => exact ih (ascending_insert ascending _ _)

/-- Sorting leaves the names in ascending order. -/
theorem ascending_sorted (members : Members α) : members.sorted.Ascending :=
  ascending_foldl_insert members List.Pairwise.nil

/-- What is greater than all names is placed last. -/
theorem insert_last {members : Members α} {key : String}
    (greatest : ∀ name ∈ members.map Prod.fst, name < key) (entry : α) :
    members.insert key entry = members ++ [(key, entry)] := by
  have absent : members.get? key = none :=
    (get?_eq_none_iff members key).2 fun mem => String.lt_irrefl key (greatest key mem)
  rw [insert, has_eq_isSome, absent, if_neg (by simp)]
  clear absent
  induction members with
  | nil => rfl
  | cons member rest ih =>
    obtain ⟨name, old⟩ := member
    rw [List.map_cons, List.forall_mem_cons] at greatest
    rw [place, if_neg (String.lt_asymm greatest.1), ih greatest.2, List.cons_append]

/-- Sorting changes nothing if the names ascend. -/
theorem sorted_of_ascending {members : Members α} (ascending : members.Ascending) :
    members.sorted = members := by
  suffices fold : ∀ done : Members α, Ascending (done ++ members) →
      members.foldl (fun done member => done.insert member.1 member.2) done = done ++ members from
    fold [] ascending
  clear ascending
  induction members with
  | nil => simp
  | cons member rest ih =>
    obtain ⟨name, entry⟩ := member
    intro done ascending
    have greatest : ∀ earlier ∈ done.map Prod.fst, earlier < name := by
      rw [Ascending, List.map_append, List.pairwise_append] at ascending
      exact fun earlier mem => ascending.2.2 earlier mem name (by simp)
    rw [List.foldl_cons, insert_last greatest, ih _ (by simpa using ascending)]
    simp

/-- Members in ascending order are known by what a lookup finds under each name. -/
theorem Ascending.ext {first second : Members α} (ascending : first.Ascending)
    (ascending' : second.Ascending) (same : ∀ key, first.get? key = second.get? key) :
    first = second := by
  have nodup := ascending.nodup
  have nodup' := ascending'.nodup
  have perm : first.Perm second := by
    refine (List.perm_ext_iff_of_nodup (List.Nodup.of_map _ nodup)
      (List.Nodup.of_map _ nodup')).2 ?_
    rintro ⟨key, entry⟩
    constructor
    · intro mem
      exact mem_of_get? (same key ▸ get?_of_mem nodup mem)
    · intro mem
      exact mem_of_get? ((same key).symm ▸ get?_of_mem nodup' mem)
  rw [← sorted_of_ascending ascending, sorted_perm perm nodup, sorted_of_ascending ascending']

/-- Sorting makes no new members. -/
theorem mem_of_mem_sorted {members : Members α} {member : String × α}
    (mem : member ∈ members.sorted) : member ∈ members := by
  have found : members.sorted.get? member.1 = some member.2 :=
    get?_of_mem (ascending_sorted members).nodup mem
  rw [get?_sorted] at found
  exact List.mem_reverse.1 (mem_of_get? found)

end Members

/-! ## Induction over documents -/

namespace Json

theorem sizeOf_item_lt {items : List Json} {item : Json} (mem : item ∈ items) :
    sizeOf item < sizeOf (array items) := by
  have smaller := List.sizeOf_lt_of_mem mem
  simp only [array.sizeOf_spec]
  omega

theorem sizeOf_value_lt {members : Members Json} {member : String × Json}
    (mem : member ∈ members) : sizeOf member.2 < sizeOf (object members) := by
  have smaller := List.sizeOf_lt_of_mem mem
  have part : sizeOf member.2 < sizeOf member := by
    obtain ⟨name, value⟩ := member
    simp only [Prod.mk.sizeOf_spec]
    omega
  simp only [object.sizeOf_spec]
  omega

/-- Arrays and objects have parts; every other document is a leaf. -/
@[elab_as_elim]
theorem induction {motive : Json → Prop} (leaf : ∀ document, document.kind ≠ .array →
      document.kind ≠ .object → motive document)
    (array : ∀ items, (∀ item ∈ items, motive item) → motive (array items))
    (object : ∀ members : Members Json, (∀ member ∈ members, motive member.2) →
      motive (object members)) : ∀ document, motive document
  | null => leaf _ (by simp [kind]) (by simp [kind])
  | bool _ => leaf _ (by simp [kind]) (by simp [kind])
  | number _ => leaf _ (by simp [kind]) (by simp [kind])
  | string _ => leaf _ (by simp [kind]) (by simp [kind])
  | .array items => array items fun item _ => induction leaf array object item
  | .object members => object members fun member _ => induction leaf array object member.2
termination_by document => sizeOf document
decreasing_by
  · exact sizeOf_item_lt ‹_›
  · exact sizeOf_value_lt ‹_›

theorem canonicalItems_eq_map (items : List Json) :
    canonicalItems items = items.map canonical := by
  induction items with
  | nil => simp [canonicalItems]
  | cons item rest ih => simp [canonicalItems, ih]

theorem canonicalMembers_eq_map (members : Members Json) :
    canonicalMembers members = members.map fun (name, value) => (name, value.canonical) := by
  induction members with
  | nil => simp [canonicalMembers]
  | cons member rest ih => simp [canonicalMembers, ih]

/-! ## The objects in a document -/

mutual

/-- The objects in a document, each before those in it. -/
def objects : Json → List (Members Json)
  | array items => objectsOfItems items
  | object members => members :: objectsOfMembers members
  | null | bool _ | number _ | string _ => []

def objectsOfItems : List Json → List (Members Json)
  | [] => []
  | item :: rest => item.objects ++ objectsOfItems rest

def objectsOfMembers : List (String × Json) → List (Members Json)
  | [] => []
  | (_, value) :: rest => value.objects ++ objectsOfMembers rest

end

theorem objects_of_leaf {document : Json} (notArray : document.kind ≠ .array)
    (notObject : document.kind ≠ .object) : document.objects = [] := by
  cases document with
  | array => exact absurd rfl notArray
  | object => exact absurd rfl notObject
  | null | bool | number | string => simp [objects]

theorem objectsOfItems_eq_flatMap (items : List Json) :
    objectsOfItems items = items.flatMap objects := by
  induction items with
  | nil => simp [objectsOfItems]
  | cons item rest ih => rw [objectsOfItems, ih, List.flatMap_cons]

theorem objectsOfMembers_eq_flatMap (members : Members Json) :
    objectsOfMembers members = members.flatMap fun member => member.2.objects := by
  induction members with
  | nil => simp [objectsOfMembers]
  | cons member rest ih => rw [objectsOfMembers, ih, List.flatMap_cons]

section
variable {P : Members Json → Prop}

theorem forall_objects_array {items : List Json} :
    (∀ members ∈ (array items).objects, P members) ↔
      ∀ item ∈ items, ∀ members ∈ item.objects, P members := by
  simp only [objects, objectsOfItems_eq_flatMap, List.mem_flatMap]
  exact ⟨fun all item mem members below => all members ⟨item, mem, below⟩,
    fun each members ⟨item, mem, below⟩ => each item mem members below⟩

theorem forall_objects_object {members : Members Json} :
    (∀ inner ∈ (object members).objects, P inner) ↔
      P members ∧ ∀ member ∈ members, ∀ inner ∈ member.2.objects, P inner := by
  simp only [objects, objectsOfMembers_eq_flatMap, List.forall_mem_cons, List.mem_flatMap]
  exact and_congr_right fun _ =>
    ⟨fun all member mem inner below => all inner ⟨member, mem, below⟩,
      fun each inner ⟨member, mem, below⟩ => each member mem inner below⟩

end

/-! ## Canonical forms -/

/-- In every object the names ascend, as in the ordered map that holds the members of an object. -/
def IsCanonical (document : Json) : Prop := ∀ members ∈ document.objects, members.Ascending

instance (document : Json) : Decidable document.IsCanonical :=
  inferInstanceAs (Decidable (∀ _ ∈ _, _))

theorem isCanonical_array {items : List Json} :
    (array items).IsCanonical ↔ ∀ item ∈ items, item.IsCanonical :=
  forall_objects_array

theorem isCanonical_object {members : Members Json} :
    (object members).IsCanonical ↔
      members.Ascending ∧ ∀ member ∈ members, member.2.IsCanonical :=
  forall_objects_object

theorem canonical_of_leaf {document : Json} (notArray : document.kind ≠ .array)
    (notObject : document.kind ≠ .object) : document.canonical = document := by
  cases document with
  | array => exact absurd rfl notArray
  | object => exact absurd rfl notObject
  | null | bool | number | string => rfl

theorem canonical_array (items : List Json) :
    (array items).canonical = array (items.map canonical) := by
  rw [canonical, canonicalItems_eq_map]

/-- The canonical form is canonical. -/
theorem isCanonical_canonical (document : Json) : document.canonical.IsCanonical := by
  induction document using Json.induction with
  | leaf document notArray notObject =>
    rw [canonical_of_leaf notArray notObject, IsCanonical, objects_of_leaf notArray notObject]
    simp
  | array items ih => simpa [canonical_array, isCanonical_array] using ih
  | object members ih =>
    rw [canonical, isCanonical_object]
    refine ⟨Members.ascending_sorted _, fun member mem => ?_⟩
    have mem' := Members.mem_of_mem_sorted mem
    rw [canonicalMembers_eq_map] at mem'
    obtain ⟨given, given_mem, rfl⟩ := List.mem_map.1 mem'
    exact ih given given_mem

/-- A canonical document is its own canonical form. -/
theorem IsCanonical.canonical_eq {document : Json} (isCanonical : document.IsCanonical) :
    document.canonical = document := by
  induction document using Json.induction with
  | leaf document notArray notObject => exact canonical_of_leaf notArray notObject
  | array items ih =>
    have same : items.map canonical = items.map id :=
      List.map_congr_left fun item mem => ih item mem (isCanonical_array.1 isCanonical item mem)
    rw [canonical_array, same, List.map_id]
  | object members ih =>
    obtain ⟨ascending, values⟩ := isCanonical_object.1 isCanonical
    have same : canonicalMembers members = members.map id := by
      rw [canonicalMembers_eq_map]
      refine List.map_congr_left fun member mem => ?_
      change (member.1, member.2.canonical) = member
      rw [ih member mem (values member mem)]
    rw [canonical, same, List.map_id, Members.sorted_of_ascending ascending]

/-- What a member of the canonical form is, if no member is named twice. -/
theorem get?_canonical {members : Members Json} (nodup : (members.map Prod.fst).Nodup)
    (key : String) :
    (Members.sorted (canonicalMembers members)).get? key = (members.get? key).map canonical := by
  rw [Members.get?_sorted, canonicalMembers_eq_map,
    Members.get?_reverse (by rwa [Members.names_map_entry]), Members.get?_map_entry]

/-! ## Names given once -/

/-- No object in the document names a member twice. -/
def NamesOnce (document : Json) : Prop :=
  ∀ members ∈ document.objects, (members.map Prod.fst).Nodup

instance (document : Json) : Decidable document.NamesOnce :=
  inferInstanceAs (Decidable (∀ _ ∈ _, _))

theorem namesOnce_array {items : List Json} :
    (array items).NamesOnce ↔ ∀ item ∈ items, item.NamesOnce :=
  forall_objects_array

theorem namesOnce_object {members : Members Json} :
    (object members).NamesOnce ↔
      (members.map Prod.fst).Nodup ∧ ∀ member ∈ members, member.2.NamesOnce :=
  forall_objects_object (P := fun members => (members.map Prod.fst).Nodup)

theorem NamesOnce.nodup {members : Members Json} (once : (object members).NamesOnce) :
    (members.map Prod.fst).Nodup := (namesOnce_object.1 once).1

theorem NamesOnce.of_get? {members : Members Json} (once : (object members).NamesOnce)
    {key : String} {value : Json} (found : members.get? key = some value) : value.NamesOnce :=
  (namesOnce_object.1 once).2 _ (Members.mem_of_get? found)

/-- Canonical documents name no member twice. -/
theorem IsCanonical.namesOnce {document : Json} (isCanonical : document.IsCanonical) :
    document.NamesOnce :=
  fun members mem => (isCanonical members mem).nodup

end Json

end ConfigSchema
