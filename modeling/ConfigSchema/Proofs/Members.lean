import ConfigSchema.Members

/-! # Laws of members

A name that is inserted is found under its new entry and every other name as before, whatever the
order of the members and however often they name something (`get?_insert`), and insertions under
different names may change places (`insert_comm`). Of sorted members a lookup finds the last entry
of a name (`get?_sorted`). -/
namespace ConfigSchema

/-! ## The last of each name -/

section LastOfEach

variable {α γ : Type} [DecidableEq γ]

/-- Of several items with one name only the last. -/
def lastOfEach (name : α → γ) : List α → List α
  | [] => []
  | item :: rest =>
    if name item ∈ rest.map name then lastOfEach name rest else item :: lastOfEach name rest

theorem lastOfEach_sublist (name : α → γ) (items : List α) :
    (lastOfEach name items).Sublist items := by
  induction items with
  | nil => exact List.Sublist.slnil
  | cons item rest ih =>
    by_cases again : name item ∈ rest.map name
    · rw [lastOfEach, if_pos again]
      exact ih.cons item
    · rw [lastOfEach, if_neg again]
      exact ih.cons_cons item

theorem nodup_lastOfEach (name : α → γ) (items : List α) :
    ((lastOfEach name items).map name).Nodup := by
  induction items with
  | nil => exact List.nodup_nil
  | cons item rest ih =>
    by_cases again : name item ∈ rest.map name
    · rwa [lastOfEach, if_pos again]
    · have fresh : name item ∉ (lastOfEach name rest).map name :=
        fun mem => again (((lastOfEach_sublist name rest).map name).subset mem)
      rw [lastOfEach, if_neg again, List.map_cons]
      exact List.nodup_cons.2 ⟨fresh, ih⟩

theorem lastOfEach_eq_self {name : α → γ} {items : List α} (nodup : (items.map name).Nodup) :
    lastOfEach name items = items := by
  induction items with
  | nil => rfl
  | cons item rest ih =>
    obtain ⟨fresh, nodupRest⟩ := List.nodup_cons.1 nodup
    rw [lastOfEach, if_neg fresh, ih nodupRest]

/-- As many items are left as there were exactly if all names are different. -/
theorem length_lastOfEach_eq_iff (name : α → γ) (items : List α) :
    (lastOfEach name items).length = items.length ↔ (items.map name).Nodup := by
  constructor
  · intro same
    rw [← (lastOfEach_sublist name items).eq_of_length same]
    exact nodup_lastOfEach name items
  · intro nodup
    rw [lastOfEach_eq_self nodup]

end LastOfEach

namespace Members

variable {α β : Type}

/-! ## Lookups -/

@[simp] theorem get?_nil (key : String) : get? ([] : Members α) key = none := rfl

theorem get?_cons (name : String) (entry : α) (rest : Members α) (key : String) :
    get? ((name, entry) :: rest) key = if name = key then some entry else get? rest key := rfl

theorem get?_append (first second : Members α) (key : String) :
    get? (first ++ second) key = (get? first key).or (get? second key) := by
  induction first with
  | nil => rfl
  | cons member rest ih =>
    obtain ⟨name, entry⟩ := member
    simp only [List.cons_append, get?_cons]
    split
    · rfl
    · exact ih

theorem get?_eq_none_iff (members : Members α) (key : String) :
    members.get? key = none ↔ key ∉ members.map Prod.fst := by
  induction members with
  | nil => simp
  | cons member rest ih =>
    obtain ⟨name, entry⟩ := member
    rw [get?_cons, List.map_cons, List.mem_cons, not_or, ← ih]
    by_cases h : name = key
    · simp [h]
    · simp [h, Ne.symm h]

theorem has_eq_isSome (members : Members α) (key : String) :
    members.has key = (members.get? key).isSome := by
  induction members with
  | nil => rfl
  | cons member rest ih =>
    obtain ⟨name, entry⟩ := member
    rw [get?_cons]
    by_cases h : name = key
    · simp [has, h]
    · simp only [has] at ih
      simp [has, h, ih]

theorem mem_of_get? {members : Members α} {key : String} {entry : α}
    (found : members.get? key = some entry) : (key, entry) ∈ members := by
  induction members with
  | nil => cases found
  | cons member rest ih =>
    obtain ⟨name, first⟩ := member
    rw [get?_cons] at found
    split at found
    · rename_i h
      cases found
      rw [h]
      exact List.mem_cons_self
    · exact List.mem_cons_of_mem _ (ih found)

/-- Among members without repeats a lookup finds every one of them. -/
theorem get?_of_mem {members : Members α} (nodup : (members.map Prod.fst).Nodup) {key : String}
    {entry : α} (mem : (key, entry) ∈ members) : members.get? key = some entry := by
  induction members with
  | nil => simp at mem
  | cons member rest ih =>
    obtain ⟨name, first⟩ := member
    obtain ⟨fresh, nodupRest⟩ := List.nodup_cons.1 nodup
    rw [get?_cons]
    rcases List.mem_cons.1 mem with own | later
    · cases own
      simp
    · have other : name ≠ key := by
        rintro rfl
        exact fresh (List.mem_map.2 ⟨_, later, rfl⟩)
      rw [if_neg other, ih nodupRest later]

/-- Without repeats the order of the members does not matter. -/
theorem get?_reverse {members : Members α} (nodup : (members.map Prod.fst).Nodup) (key : String) :
    get? members.reverse key = members.get? key := by
  induction members with
  | nil => rfl
  | cons member rest ih =>
    obtain ⟨name, entry⟩ := member
    obtain ⟨fresh, nodupRest⟩ := List.nodup_cons.1 nodup
    rw [List.reverse_cons, get?_append, ih nodupRest, get?_cons, get?_cons]
    by_cases h : name = key
    · have absent : get? rest key = none := (get?_eq_none_iff rest key).2 (h ▸ fresh)
      simp [h, absent]
    · simp [h]

/-- The last of each name is what a lookup finds from the end. -/
theorem mem_lastOfEach_iff {members : Members α} {key : String} {entry : α} :
    (key, entry) ∈ lastOfEach Prod.fst members ↔
      get? members.reverse key = some entry := by
  induction members with
  | nil => simp [lastOfEach]
  | cons member rest ih =>
    obtain ⟨name, first⟩ := member
    rw [List.reverse_cons, get?_append, get?_cons, get?_nil]
    by_cases again : name ∈ rest.map Prod.fst
    · rw [lastOfEach, if_pos again, ih]
      by_cases own : name = key
      · have found : get? rest.reverse key ≠ none := by
          rw [Ne, get?_eq_none_iff, Decidable.not_not, List.map_reverse, List.mem_reverse, ← own]
          exact again
        obtain ⟨last, found⟩ := Option.ne_none_iff_exists'.1 found
        simp [found]
      · simp [own]
    · have absent : get? rest.reverse name = none := by
        rw [get?_eq_none_iff, List.map_reverse, List.mem_reverse]
        exact again
      rw [lastOfEach, if_neg again, List.mem_cons, ih]
      by_cases own : name = key
      · simp [← own, absent, eq_comm]
      · simp [own, Ne.symm own]

/-! ## Insertions -/

theorem get?_replace {members : Members α} {key : String} (has : members.has key = true)
    (entry : α) (other : String) :
    get? (members.replace key entry) other =
      if key = other then some entry else members.get? other := by
  induction members with
  | nil => simp [Members.has] at has
  | cons member rest ih =>
    obtain ⟨name, old⟩ := member
    simp only [replace]
    split
    · rename_i h
      subst h
      simp only [get?_cons]
      split <;> rfl
    · rename_i h
      have later : Members.has rest key = true := by simpa [Members.has, h] using has
      rw [get?_cons, get?_cons, ih later]
      by_cases own : name = other
      · subst own
        simp [Ne.symm h]
      · simp [own]

theorem get?_place {members : Members α} {key : String} (absent : members.get? key = none)
    (entry : α) (other : String) :
    get? (members.place key entry) other =
      if key = other then some entry else members.get? other := by
  induction members with
  | nil => rfl
  | cons member rest ih =>
    obtain ⟨name, old⟩ := member
    simp only [place]
    split
    · rfl
    · rw [get?_cons] at absent
      have h : name ≠ key := fun same => by simp [same] at absent
      rw [if_neg h] at absent
      rw [get?_cons, get?_cons, ih absent]
      by_cases own : name = other
      · subst own
        simp [Ne.symm h]
      · simp [own]

theorem get?_insert (members : Members α) (key : String) (entry : α) (other : String) :
    get? (members.insert key entry) other =
      if key = other then some entry else members.get? other := by
  unfold insert
  split
  · rename_i has
    exact get?_replace has entry other
  · rename_i absent
    have absent : members.get? key = none := by simpa [has_eq_isSome] using absent
    exact get?_place absent entry other

theorem replace_self {members : Members α} {key : String} {entry : α}
    (found : members.get? key = some entry) : members.replace key entry = members := by
  induction members with
  | nil => rfl
  | cons member rest ih =>
    obtain ⟨name, old⟩ := member
    rw [get?_cons] at found
    simp only [replace]
    split
    · rename_i h
      rw [if_pos h] at found
      cases found
      rfl
    · rename_i h
      rw [if_neg h] at found
      rw [ih found]

/-- Inserting what is there already changes nothing. -/
theorem insert_self {members : Members α} {key : String} {entry : α}
    (found : members.get? key = some entry) : members.insert key entry = members := by
  have has : members.has key = true := by rw [has_eq_isSome, found]; rfl
  rw [insert, if_pos has, replace_self found]

/-! ### Insertions one after another -/

theorem insert_of_has {members : Members α} {key : String} (has : members.has key = true)
    (entry : α) : members.insert key entry = members.replace key entry := if_pos has

theorem insert_of_absent {members : Members α} {key : String} (absent : members.has key ≠ true)
    (entry : α) : members.insert key entry = members.place key entry := if_neg absent

theorem has_insert_self (members : Members α) (key : String) (entry : α) :
    (members.insert key entry).has key = true := by
  rw [has_eq_isSome, get?_insert, if_pos rfl]
  rfl

theorem has_insert_of_ne (members : Members α) {first second : String} (different : first ≠ second)
    (entry : α) : (members.insert first entry).has second = members.has second := by
  rw [has_eq_isSome, get?_insert, if_neg different, has_eq_isSome]

theorem replace_replace_self (members : Members α) (key : String) (first last : α) :
    replace key last (members.replace key first) = members.replace key last := by
  induction members with
  | nil => rfl
  | cons member rest ih =>
    obtain ⟨name, old⟩ := member
    by_cases own : name = key
    · simp [replace, own]
    · simp [replace, own, ih]

theorem replace_place_self {members : Members α} {key : String} (absent : members.get? key = none)
    (first last : α) : replace key last (members.place key first) = members.place key last := by
  induction members with
  | nil => simp [place, replace]
  | cons member rest ih =>
    obtain ⟨name, old⟩ := member
    have other : name ≠ key := by
      rintro rfl
      simp [get?_cons] at absent
    rw [get?_cons, if_neg other] at absent
    by_cases before : key < name
    · simp [place, replace, before]
    · simp [place, replace, before, other, ih absent]

/-- Of two insertions under one name the later one counts. -/
theorem insert_insert_self (members : Members α) (key : String) (first last : α) :
    (members.insert key first).insert key last = members.insert key last := by
  rw [insert_of_has (has_insert_self members key first)]
  by_cases has : members.has key = true
  · rw [insert_of_has has, insert_of_has has, replace_replace_self]
  · have absent : members.get? key = none := by simpa [has_eq_isSome] using has
    rw [insert_of_absent has, insert_of_absent has, replace_place_self absent]

theorem replace_replace_comm (members : Members α) {first second : String}
    (different : first ≠ second) (entry entry' : α) :
    replace second entry' (members.replace first entry) =
      replace first entry (members.replace second entry') := by
  induction members with
  | nil => rfl
  | cons member rest ih =>
    obtain ⟨name, old⟩ := member
    by_cases own : name = first
    · simp [replace, own, different]
    · by_cases own' : name = second
      · simp [replace, own', Ne.symm different]
      · simp [replace, own, own', ih]

theorem place_replace_comm (members : Members α) {first second : String}
    (different : first ≠ second) (entry entry' : α) :
    place second entry' (members.replace first entry) =
      replace first entry (members.place second entry') := by
  induction members with
  | nil => simp [place, replace, Ne.symm different]
  | cons member rest ih =>
    obtain ⟨name, old⟩ := member
    by_cases before : second < name
    · by_cases own : name = first
      · subst own
        simp [place, replace, before, Ne.symm different]
      · simp [place, replace, before, own, Ne.symm different]
    · by_cases own : name = first
      · subst own
        simp [place, replace, before]
      · simp [place, replace, before, own, ih]

theorem place_place_of_lt (members : Members α) {first second : String} (less : first < second)
    (entry entry' : α) :
    place second entry' (members.place first entry) =
      place first entry (members.place second entry') := by
  have notLess : ¬ second < first := String.lt_asymm less
  induction members with
  | nil => simp [place, less, notLess]
  | cons member rest ih =>
    obtain ⟨name, old⟩ := member
    by_cases before' : second < name
    · have before : first < name := String.lt_trans less before'
      simp [place, before, before', less, notLess]
    · by_cases before : first < name
      · simp [place, before, before', notLess]
      · simp [place, before, before', ih]

theorem place_place_comm (members : Members α) {first second : String}
    (different : first ≠ second) (entry entry' : α) :
    place second entry' (members.place first entry) =
      place first entry (members.place second entry') := by
  by_cases less : first < second
  · exact members.place_place_of_lt less entry entry'
  · have greater : second < first := by
      refine Decidable.byContradiction fun notLess => different ?_
      exact String.le_antisymm (String.not_lt.1 notLess) (String.not_lt.1 less)
    exact (members.place_place_of_lt greater entry' entry).symm

/-- Insertions under different names may change places. -/
theorem insert_comm (members : Members α) {first second : String} (different : first ≠ second)
    (entry entry' : α) :
    (members.insert first entry).insert second entry' =
      (members.insert second entry').insert first entry := by
  have has_second := members.has_insert_of_ne different entry
  have has_first := members.has_insert_of_ne (Ne.symm different) entry'
  by_cases here : members.has first = true
  · have here_still := has_first.trans here
    by_cases here' : members.has second = true
    · rw [insert_of_has (has_second.trans here'), insert_of_has here_still, insert_of_has here,
        insert_of_has here', replace_replace_comm members different]
    · have absent_still := fun has => here' (has_second.symm.trans has)
      rw [insert_of_absent absent_still, insert_of_has here_still, insert_of_has here,
        insert_of_absent here', place_replace_comm members different]
  · have absent_still := fun has => here (has_first.symm.trans has)
    by_cases here' : members.has second = true
    · rw [insert_of_has (has_second.trans here'), insert_of_absent absent_still,
        insert_of_absent here, insert_of_has here',
        place_replace_comm members (Ne.symm different)]
    · have absent_still' := fun has => here' (has_second.symm.trans has)
      rw [insert_of_absent absent_still', insert_of_absent absent_still, insert_of_absent here,
        insert_of_absent here', place_place_comm members different]

/-! ## Sorting -/

theorem get?_foldl_insert (members done : Members α) (key : String) :
    get? (members.foldl (fun done member => insert done member.1 member.2) done) key =
      (get? members.reverse key).or (get? done key) := by
  induction members generalizing done with
  | nil => rfl
  | cons member rest ih =>
    obtain ⟨name, entry⟩ := member
    rw [List.foldl_cons, ih, get?_insert, List.reverse_cons, get?_append, Option.or_assoc,
      get?_cons]
    split <;> rfl

/-- Of the entries of a name, sorting keeps the last. -/
theorem get?_sorted (members : Members α) (key : String) :
    get? members.sorted key = get? members.reverse key := by
  rw [sorted, get?_foldl_insert, get?_nil, Option.or_none]

/-- Without repeats it does not matter in which order members are inserted. -/
theorem foldl_insert_perm {first second : Members α} (order : first.Perm second)
    (nodup : (first.map Prod.fst).Nodup) (done : Members α) :
    first.foldl (fun done member => insert done member.1 member.2) done =
      second.foldl (fun done member => insert done member.1 member.2) done := by
  refine order.foldl_eq' (fun member mem member' mem' done => ?_) done
  by_cases same : member.1 = member'.1
  · have entry := get?_of_mem nodup mem
    rw [same, get?_of_mem nodup mem', Option.some.injEq] at entry
    rw [same, entry]
  · exact insert_comm done same member.2 member'.2

/-- What was inserted before under a name does not count if the name is inserted again. -/
theorem foldl_insert_of_mem {members : Members α} {key : String}
    (again : key ∈ members.map Prod.fst) (entry : α) (done : Members α) :
    members.foldl (fun done member => insert done member.1 member.2) (done.insert key entry) =
      members.foldl (fun done member => insert done member.1 member.2) done := by
  induction members generalizing done with
  | nil => simp at again
  | cons member rest ih =>
    obtain ⟨name, value⟩ := member
    rw [List.foldl_cons, List.foldl_cons]
    by_cases own : key = name
    · rw [own, insert_insert_self]
    · have later : key ∈ rest.map Prod.fst := by simpa [own] using again
      rw [insert_comm done own, ih later]

theorem sorted_perm {first second : Members α} (order : first.Perm second)
    (nodup : (first.map Prod.fst).Nodup) : first.sorted = second.sorted :=
  foldl_insert_perm order nodup []

/-! ## Entries that are changed or dropped -/

/-- Every entry changed or dropped, as its name and its value decide. -/
def reduce (change : String → α → Option β) (members : Members α) : Members β :=
  members.filterMap fun (name, entry) => (change name entry).map fun entry => (name, entry)

theorem reduce_cons (change : String → α → Option β) (name : String) (entry : α)
    (rest : Members α) :
    reduce change ((name, entry) :: rest) =
      ((change name entry).map fun entry => (name, entry)).toList ++ reduce change rest := by
  cases found : change name entry with
  | none => simp [reduce, found]
  | some entry' => simp [reduce, found]

theorem names_reduce_sublist (change : String → α → Option β) (members : Members α) :
    ((members.reduce change).map Prod.fst).Sublist (members.map Prod.fst) := by
  induction members with
  | nil => exact List.Sublist.slnil
  | cons member rest ih =>
    obtain ⟨name, entry⟩ := member
    rw [reduce_cons]
    cases change name entry with
    | none => exact ih.cons name
    | some entry' => exact ih.cons_cons name

/-- A lookup of a name under which nothing is dropped finds the changed entry. -/
theorem get?_reduce_of_kept {change : String → α → Option β} {key : String} {changed : α → β}
    (kept : ∀ entry, change key entry = some (changed entry)) (members : Members α) :
    (members.reduce change).get? key = (members.get? key).map changed := by
  induction members with
  | nil => rfl
  | cons member rest ih =>
    obtain ⟨name, entry⟩ := member
    rw [reduce_cons, get?_append, ih, get?_cons]
    by_cases own : name = key
    · subst own
      simp [kept, get?_cons]
    · cases change name entry with
      | none => simp [own]
      | some entry' => simp [own, get?_cons]

/-- A lookup of a name under which everything is dropped finds nothing. -/
theorem get?_reduce_of_dropped {change : String → α → Option β} {key : String}
    (dropped : ∀ entry, change key entry = none) (members : Members α) :
    (members.reduce change).get? key = none := by
  induction members with
  | nil => rfl
  | cons member rest ih =>
    obtain ⟨name, entry⟩ := member
    rw [reduce_cons, get?_append, ih]
    by_cases own : name = key
    · subst own
      simp [dropped]
    · cases change name entry with
      | none => rfl
      | some entry' => simp [own, get?_cons]

/-- What a lookup finds after entries were changed or dropped, if no two have one name. -/
theorem get?_reduce {members : Members α} (nodup : (members.map Prod.fst).Nodup)
    (change : String → α → Option β) (key : String) :
    (members.reduce change).get? key = (members.get? key).bind (change key) := by
  induction members with
  | nil => rfl
  | cons member rest ih =>
    obtain ⟨name, entry⟩ := member
    obtain ⟨fresh, nodupRest⟩ := List.nodup_cons.1 nodup
    rw [reduce_cons, get?_append, ih nodupRest, get?_cons]
    by_cases own : name = key
    · subst own
      -- a dropped entry leaves no later one of its name to be found
      have absent : get? rest name = none := (get?_eq_none_iff rest name).2 fresh
      cases changed : change name entry with
      | none => simp [absent, changed]
      | some entry' => simp [get?_cons, changed]
    · cases change name entry with
      | none => simp [own]
      | some entry' => simp [own, get?_cons]

/-- What a lookup finds after some members were dropped, if no two have one name. -/
theorem get?_filter {members : Members α} (nodup : (members.map Prod.fst).Nodup)
    (keep : String × α → Bool) (key : String) :
    get? (members.filter keep) key = (members.get? key).filter fun entry => keep (key, entry) := by
  have filtered : members.filter keep =
      members.reduce fun name entry => if keep (name, entry) then some entry else none := by
    rw [← List.filterMap_eq_filter, reduce]
    congr 1
    funext ⟨name, entry⟩
    by_cases kept : keep (name, entry) = true
    · simp [Option.guard, kept]
    · simp [Option.guard, kept]
  rw [filtered, get?_reduce nodup]
  cases members.get? key with
  | none => rfl
  | some entry => rfl

/-! ## Entries made from a list -/

theorem get?_map {items : List β} {name : β → String} (nodup : (items.map name).Nodup)
    (entry : β → α) {item : β} (mem : item ∈ items) :
    get? (items.map fun item => (name item, entry item)) (name item) = some (entry item) :=
  get?_of_mem (by rwa [List.map_map]) (List.mem_map.2 ⟨item, mem, rfl⟩)

theorem names_map_entry (members : Members α) (change : α → β) :
    (members.map fun (name, entry) => (name, change entry)).map Prod.fst =
      members.map Prod.fst := by
  rw [List.map_map]
  rfl

/-- What a lookup finds when every entry is changed. -/
theorem get?_map_entry (members : Members α) (change : α → β) (key : String) :
    get? (members.map fun (name, entry) => (name, change entry)) key =
      (members.get? key).map change := by
  induction members with
  | nil => rfl
  | cons member rest ih =>
    obtain ⟨name, entry⟩ := member
    rw [List.map_cons, get?_cons, get?_cons, ih]
    by_cases own : name = key
    · simp [own]
    · simp [own]

theorem names_filterMap_sublist (members : Members (Option α)) :
    ((members.filterMap fun (name, value) => value.map fun value => (name, value)).map
      Prod.fst).Sublist (members.map Prod.fst) :=
  names_reduce_sublist (fun _ value => value) members

/-- Dropping the entries that are unset loses no value. -/
theorem get?_filterMap {members : Members (Option α)} (nodup : (members.map Prod.fst).Nodup)
    (key : String) :
    get? (members.filterMap fun (name, value) => value.map fun value => (name, value)) key =
      (members.get? key).join :=
  (get?_reduce nodup (fun _ value => value) key).trans Option.bind_id_eq_join

end Members

end ConfigSchema
