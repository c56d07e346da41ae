import ConfigSchema.Proofs.Names

/-! # The first repeated name (`ensure_unique_names`)

`ensure_unique_names` stops at the first occurrence of a property, in document order, that has the
name of an earlier sibling (`RootSchema.firstDuplicate_eq_find?`). The parent that it names is a
text in which the root is called `<root>`. A section may be called so too, and then the report does
not say where the repetition is (`RootSchema.duplicate_located_iff`). -/
namespace ConfigSchema

/-! ## Occurrences -/

/-- A declared property, with the siblings before it. -/
structure Occurrence extends Site where
  earlier : List SchemaNode

namespace Occurrence

/-- Whether an earlier sibling has the same name. -/
def Repeats (occurrence : Occurrence) : Prop :=
  occurrence.node.name ∈ occurrence.earlier.map SchemaNode.name

instance (occurrence : Occurrence) : Decidable occurrence.Repeats :=
  inferInstanceAs (Decidable (_ ∈ _))

def below (name : String) (occurrence : Occurrence) : Occurrence :=
  { occurrence with toSite := occurrence.toSite.below name }

def duplicate (parent : String) (occurrence : Occurrence) : DuplicateName :=
  ⟨occurrence.above.foldl childPath parent, occurrence.node.name⟩

end Occurrence

mutual

/-- The occurrences below a node: each before those below it, and these before the next sibling. -/
def SchemaNode.occurrences : SchemaNode → List Occurrence
  | .object _ properties => occurrencesAfter [] properties
  | .string _ _ | .number _ _ | .boolean _ _ | .enum _ _ => []

/-- The occurrences of siblings and below them, given the siblings before. -/
def occurrencesAfter (earlier : List SchemaNode) : List SchemaNode → List Occurrence
  | [] => []
  | node :: rest =>
    ⟨⟨[], node⟩, earlier⟩ :: node.occurrences.map (Occurrence.below node.name)
      ++ occurrencesAfter (earlier ++ [node]) rest

end

/-- The occurrences in a schema. -/
def RootSchema.occurrences (schema : RootSchema) : List Occurrence :=
  occurrencesAfter [] schema.properties

/-! ## The search -/

/-- Seen from further up, the same occurrence is the first that repeats a name. -/
theorem find?_below (name : String) (occurrences : List Occurrence) :
    (occurrences.map (Occurrence.below name)).find? (fun occurrence => occurrence.Repeats) =
      (occurrences.find? fun occurrence => occurrence.Repeats).map (Occurrence.below name) := by
  rw [List.find?_map]
  rfl

/-- Among siblings each is compared with those before it and is then searched itself. -/
theorem firstDuplicate_eq_find? {properties : List SchemaNode}
    (below : ∀ property ∈ properties, ∀ path, property.firstDuplicateBelow path =
      (property.occurrences.find? fun occurrence => occurrence.Repeats).map
        (Occurrence.duplicate path))
    (parent : String) {seen : List String} {earlier : List SchemaNode}
    (same : ∀ name, name ∈ seen ↔ name ∈ earlier.map SchemaNode.name) :
    firstDuplicate parent seen properties =
      ((occurrencesAfter earlier properties).find? fun occurrence => occurrence.Repeats).map
        (Occurrence.duplicate parent) := by
  induction properties generalizing seen earlier with
  | nil => simp [firstDuplicate, occurrencesAfter]
  | cons node rest ih =>
    obtain ⟨own, later⟩ := List.forall_mem_cons.1 below
    have repeats_iff : (⟨⟨[], node⟩, earlier⟩ : Occurrence).Repeats ↔ node.name ∈ seen :=
      (same node.name).symm
    rw [firstDuplicate, occurrencesAfter, List.cons_append, List.find?_cons, List.find?_append,
      find?_below, own]
    by_cases repeated : node.name ∈ seen
    · simp only [List.contains_iff_mem, repeated, if_true, decide_eq_true (repeats_iff.2 repeated),
        Option.map_some]
      rfl
    · simp only [List.contains_iff_mem, repeated, if_false,
        decide_eq_false (mt repeats_iff.1 repeated)]
      cases found : node.occurrences.find? fun occurrence => occurrence.Repeats with
      | some occurrence => rfl
      | none =>
        have sameAfter : ∀ name, name ∈ node.name :: seen ↔
            name ∈ (earlier ++ [node]).map SchemaNode.name := by
          simp [same, or_comm]
        exact ih later sameAfter

theorem SchemaNode.firstDuplicateBelow_eq_find? (node : SchemaNode) (path : String) :
    node.firstDuplicateBelow path =
      (node.occurrences.find? fun occurrence => occurrence.Repeats).map
        (Occurrence.duplicate path) := by
  induction node using SchemaNode.induction generalizing path with
  | leaf node leaf =>
    cases node with
    | object => exact absurd rfl leaf
    | string | number | boolean | enum => rfl
  | object node properties ih =>
    rw [firstDuplicateBelow, occurrences]
    exact firstDuplicate_eq_find? ih path (by simp)

/-- The search finds the first occurrence that repeats a name. -/
theorem RootSchema.firstDuplicate_eq_find? (schema : RootSchema) :
    schema.firstDuplicate =
      (schema.occurrences.find? fun occurrence => occurrence.Repeats).map
        (Occurrence.duplicate rootPath) :=
  ConfigSchema.firstDuplicate_eq_find?
    (fun property _ => property.firstDuplicateBelow_eq_find?) rootPath (by simp)

/-- **The search is exact and finds the first repeated name.** It finds nothing exactly if siblings
have different names at every depth. What it finds is the name of an occurrence that repeats it,
where no occurrence before repeats one. -/
theorem RootSchema.firstDuplicate_exact (schema : RootSchema) :
    (schema.firstDuplicate = none ↔ schema.UniqueNames) ∧
      ∀ duplicate, schema.firstDuplicate = some duplicate →
        ∃ before found after, schema.occurrences = before ++ found :: after ∧
          (∀ occurrence ∈ before, ¬ occurrence.Repeats) ∧ found.Repeats ∧
          duplicate.name = found.node.name := by
  refine ⟨schema.firstDuplicate_eq_none_iff, fun duplicate reported => ?_⟩
  rw [schema.firstDuplicate_eq_find?] at reported
  obtain ⟨found, first, rfl⟩ := Option.map_eq_some_iff.1 reported
  obtain ⟨repeats, before, after, split, none⟩ := List.find?_eq_some_iff_append.1 first
  refine ⟨before, found, after, split, ?_, of_decide_eq_true repeats, rfl⟩
  simpa using none

/-- A name that is repeated deep in the first section, and the name of this section repeated later.
-/
def repeatsTwice : RootSchema where
  properties :=
    [.object { name := "a" } [.object { name := "x" }
        [.boolean { name := "k" } [], .boolean { name := "l" } [], .boolean { name := "k" } []]],
      .boolean { name := "a" } []]

theorem RootSchema.firstDuplicate_exact_repeatsTwice :
    repeatsTwice.firstDuplicate = some ⟨"a.x", "k"⟩ ∧
      ∃ before found after, repeatsTwice.occurrences = before ++ found :: after ∧
        (∀ occurrence ∈ before, ¬ occurrence.Repeats) ∧ found.Repeats ∧ "k" = found.node.name := by
  have reported : repeatsTwice.firstDuplicate = some ⟨"a.x", "k"⟩ := by decide
  exact ⟨reported, repeatsTwice.firstDuplicate_exact.2 _ reported⟩

/-! ## The reported parent -/

/-- How the way down to a level reads in a report: leading names that read like the root are left
out, and a way with no other name reads like the root itself. -/
def shownParent (above : List String) : String :=
  match above.dropWhile (· = rootPath) with
  | [] => rootPath
  | name :: rest => String.intercalate "." (name :: rest)

theorem childPath_rootPath (name : String) : childPath rootPath name = name := if_pos rfl

theorem childPath_of_ne {parent : String} (other : parent ≠ rootPath) (name : String) :
    childPath parent name = parent ++ "." ++ name := if_neg other

/-- A path with a dot is not the root's. -/
theorem append_dot_ne_rootPath (parent name : String) : parent ++ "." ++ name ≠ rootPath := by
  intro same
  have dot : '.' ∈ (parent ++ "." ++ name).toList := by simp
  rw [same] at dot
  revert dot
  decide

/-- Below a path that is not the root's every name is added. -/
theorem foldl_childPath {parent : String} (other : parent ≠ rootPath) (above : List String) :
    above.foldl childPath parent = String.intercalate "." (parent :: above) ∧
      above.foldl childPath parent ≠ rootPath := by
  induction above generalizing parent with
  | nil => exact ⟨String.intercalate_singleton.symm, other⟩
  | cons name rest ih =>
    rw [List.foldl_cons, childPath_of_ne other]
    exact ih (append_dot_ne_rootPath parent name)

theorem foldl_childPath_rootPath (above : List String) :
    above.foldl childPath rootPath = shownParent above := by
  induction above with
  | nil => rfl
  | cons name rest ih =>
    rw [List.foldl_cons, childPath_rootPath, shownParent]
    by_cases isRoot : name = rootPath
    · rw [List.dropWhile_cons_of_pos (by simpa using isRoot), isRoot]
      exact ih
    · rw [List.dropWhile_cons_of_neg (by simpa using isRoot)]
      exact (foldl_childPath isRoot rest).1

/-- A path is at most as long as its names, joined. -/
theorem length_foldl_childPath_le (above : List String) (parent : String) :
    (above.foldl childPath parent).length ≤ (String.intercalate "." (parent :: above)).length := by
  induction above generalizing parent with
  | nil => simp
  | cons name rest ih =>
    by_cases isRoot : parent = rootPath
    · rw [isRoot, List.foldl_cons, childPath_rootPath, String.intercalate_cons_cons,
        String.length_append, String.length_append]
      have later := ih name
      omega
    · exact Nat.le_of_eq (congrArg _ (foldl_childPath isRoot (name :: rest)).1)

/-- A parent is where its children repeat the name: it is called like the root exactly at the top,
and anywhere else it is all the names down to it. -/
def Occurrence.LocatedBy (occurrence : Occurrence) (parent : String) : Prop :=
  (parent = rootPath ↔ occurrence.above = []) ∧
    (occurrence.above ≠ [] → parent = String.intercalate "." occurrence.above)

instance (occurrence : Occurrence) (parent : String) : Decidable (occurrence.LocatedBy parent) :=
  inferInstanceAs (Decidable (_ ∧ _))

/-- Below a section named like the root, the names above are shown incompletely. -/
theorem Occurrence.locatedBy_duplicate_iff (occurrence : Occurrence) :
    occurrence.LocatedBy (occurrence.duplicate rootPath).parent ↔
      occurrence.above.head? ≠ some rootPath := by
  rw [LocatedBy, duplicate]
  cases occurrence.above with
  | nil => simp
  | cons name rest =>
    simp only [List.foldl_cons, childPath_rootPath, List.head?_cons, reduceCtorEq, iff_false, ne_eq,
      not_false_eq_true, forall_const, Option.some.injEq]
    by_cases isRoot : name = rootPath
    · refine iff_of_false (fun located => ?_) (not_not_intro isRoot)
      obtain ⟨notRoot, shown⟩ := located
      rw [isRoot] at notRoot shown
      cases rest with
      | nil => exact notRoot rfl
      | cons next later =>
        -- The path starts anew at the next name, so it is shorter than it should be.
        have short := length_foldl_childPath_le later next
        rw [List.foldl_cons, childPath_rootPath] at shown
        rw [shown, String.intercalate_cons_cons] at short
        simp only [String.length_append, show ".".length = 1 from rfl] at short
        omega
    · obtain ⟨shown, notRoot⟩ := foldl_childPath isRoot rest
      exact iff_of_true ⟨notRoot, shown⟩ isRoot

/-- **When a report locates the repeated name.** What is reported is the first occurrence that
repeats a name, and its parent is shown without leading names that read like the root. So the parent
is named in full, and called like the root only at the top, exactly if the repeated name does not
lie below a section that is itself named like the root. -/
theorem RootSchema.duplicate_located_iff (schema : RootSchema) {duplicate : DuplicateName}
    (reported : schema.firstDuplicate = some duplicate) :
    ∃ before found after, schema.occurrences = before ++ found :: after ∧
      (∀ occurrence ∈ before, ¬ occurrence.Repeats) ∧ found.Repeats ∧
      duplicate = ⟨shownParent found.above, found.node.name⟩ ∧
      (found.LocatedBy duplicate.parent ↔ found.above.head? ≠ some rootPath) := by
  rw [schema.firstDuplicate_eq_find?] at reported
  obtain ⟨found, first, rfl⟩ := Option.map_eq_some_iff.1 reported
  obtain ⟨repeats, before, after, split, none⟩ := List.find?_eq_some_iff_append.1 first
  refine ⟨before, found, after, split, by simpa using none, of_decide_eq_true repeats, ?_,
    found.locatedBy_duplicate_iff⟩
  rw [Occurrence.duplicate, foldl_childPath_rootPath]

/-- A name that is repeated two levels below a section, deep enough for a path to lose a name. -/
def nestedRepeat (top : String) : RootSchema where
  properties :=
    [.object { name := top } [.object { name := "a" }
      [.boolean { name := "b" } [], .boolean { name := "b" } []]]]

theorem RootSchema.duplicate_located_app :
    (nestedRepeat "app").firstDuplicate = some ⟨"app.a", "b"⟩ ∧
      ∃ before found after, (nestedRepeat "app").occurrences = before ++ found :: after ∧
        (∀ occurrence ∈ before, ¬ occurrence.Repeats) ∧ found.Repeats ∧
        (⟨"app.a", "b"⟩ : DuplicateName) = ⟨shownParent found.above, found.node.name⟩ ∧
        (found.LocatedBy "app.a" ↔ found.above.head? ≠ some rootPath) := by
  have reported : (nestedRepeat "app").firstDuplicate = some ⟨"app.a", "b"⟩ := by decide
  exact ⟨reported, (nestedRepeat "app").duplicate_located_iff reported⟩

/-- Below a section that is named like the root its name is missing from the path. -/
theorem RootSchema.duplicate_not_located :
    (nestedRepeat "<root>").firstDuplicate = some ⟨"a", "b"⟩ ∧
      ∃ found, (nestedRepeat "<root>").occurrences.filter (fun occurrence => occurrence.Repeats) =
          [found] ∧
        found.above = ["<root>", "a"] ∧ found.node.name = "b" ∧ ¬ found.LocatedBy "a" := by
  let repeated : SchemaNode := .boolean { name := "b" } []
  exact ⟨by decide, ⟨⟨["<root>", "a"], repeated⟩, [repeated]⟩, rfl, rfl, rfl, by decide⟩

end ConfigSchema
