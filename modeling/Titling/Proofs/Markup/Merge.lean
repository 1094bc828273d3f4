import Titling.Proofs.Markup.Element

/-!
Merging elements: any neighbours of a stack may be merged first, and what the merged element has.

The names of a merged element stand in the order of their first places, each with its last value.
-/

namespace Titling.Markup.Element

/-- The value that an element gives to an attribute last. -/
def lastValue? (element : Element) (name : String) : Option String :=
  element.attributes.reverse.lookup name

/-- A missing layout yields the content. -/
@[simp] theorem merge_none_left (content : Option Element) : merge none content = content := rfl

/-- A missing content yields the layout. -/
@[simp] theorem merge_none_right (layout : Option Element) : merge layout none = layout := by
  cases layout <;> rfl

/-- Two merged elements have the attributes that are made of those of both in turn. -/
theorem merge_some_eq (layout content : Element) :
    merge (some layout) (some content) = some {
      tag := content.tag
      attributes := Dictionary.ofEntries (layout.attributes ++ content.attributes)
      children := if content.children = [] then layout.children else content.children } := by
  -- Laid over each other, two maps are the map of what stands in both lists, in turn.
  have attributes : Dictionary.update layout.attributeMap content.attributeMap =
      Dictionary.ofEntries (layout.attributes ++ content.attributes) := by
    rw [attributeMap, attributeMap, Dictionary.update_ofEntries]
    exact (Dictionary.update_append [] layout.attributes content.attributes).symm
  simp only [merge_some, attributes, List.isEmpty_iff]

/-- Of two merges either may be done first. -/
theorem merge_assoc (first second third : Option Element) :
    merge (merge first second) third = merge first (merge second third) := by
  -- A missing element drops out, wherever it stands.
  cases first with
  | none => simp
  | some first =>
    cases second with
    | none => simp
    | some second =>
      cases third with
      | none => simp
      | some third =>
        have attributes :
            Dictionary.ofEntries
                (Dictionary.ofEntries (first.attributes ++ second.attributes) ++ third.attributes) =
              Dictionary.ofEntries
                (first.attributes ++
                  Dictionary.ofEntries (second.attributes ++ third.attributes)) := by
          rw [Dictionary.ofEntries_ofEntries_append, Dictionary.ofEntries_append_ofEntries,
            List.append_assoc]
        simp only [merge_some_eq, attributes, Option.some.injEq, mk.injEq, true_and]
        -- The last element that has children decides.
        by_cases bare : third.children = [] <;> simp [bare]

/--
Merging is associative, and a missing element changes nothing.

So a stack of elements gives the same one whichever neighbours in it are merged first.
-/
theorem merge_neighbours (first second third : Option Element) :
    merge (merge first second) third = merge first (merge second third) ∧
    merge none first = first ∧ merge first none = first ∧
    ∀ below above, (below ++ first :: second :: above).foldl merge none =
      (below ++ merge first second :: above).foldl merge none := by
  refine ⟨merge_assoc first second third, merge_none_left first, merge_none_right first, ?_⟩
  intro below above
  simp only [List.foldl_append, List.foldl_cons, merge_assoc]

/--
A merged element has the tag of the content, and its children if it has any.

Its attributes are those of the layout and then the new ones of the content, each name at the first
place where it stands and with the value that is given to it last, by the content if it has it.
-/
theorem merge_attributes (layout content : Element) :
    ∃ merged, merge (some layout) (some content) = some merged ∧
      merged.tag = content.tag ∧
      (Dictionary.names merged.attributes).Nodup ∧
      Dictionary.names merged.attributes =
        (Dictionary.names layout.attributes).eraseDups ++
          ((Dictionary.names content.attributes).filter fun name =>
            name ∉ Dictionary.names layout.attributes).eraseDups ∧
      (∀ name value, (name, value) ∈ merged.attributes ↔
        (content.lastValue? name).or (layout.lastValue? name) = some value) ∧
      (∀ name, name ∈ Dictionary.names merged.attributes ↔
        name ∈ Dictionary.names layout.attributes ∨
          name ∈ Dictionary.names content.attributes) ∧
      merged.children = (if content.children = [] then layout.children else content.children) := by
  -- One list of entries accounts for the names, for their order and for the values.
  let merged := Dictionary.ofEntries (layout.attributes ++ content.attributes)
  have distinct : (Dictionary.names merged).Nodup := Dictionary.nodup_names_ofEntries _
  have all : Dictionary.names merged =
      (Dictionary.names layout.attributes ++ Dictionary.names content.attributes).eraseDups := by
    rw [Dictionary.names_ofEntries, Dictionary.names, List.map_append]
    rfl
  refine ⟨_, merge_some_eq layout content, rfl, distinct, ?_, ?_, ?_, rfl⟩
  · -- Behind the names of the layout come those of the content that are none of them.
    have new : ((Dictionary.names content.attributes).removeAll
        (Dictionary.names layout.attributes)) =
          (Dictionary.names content.attributes).filter fun name =>
            name ∉ Dictionary.names layout.attributes := by
      apply List.filter_congr
      intro name _
      simp
    rw [← new, ← List.eraseDups_append]
    exact all
  · -- Each name stands once, so an entry is there exactly if it is looked up.
    intro name value
    have last : Dictionary.get? name merged =
        (content.lastValue? name).or (layout.lastValue? name) := by
      simp only [merged, Dictionary.ofEntries, Dictionary.get?_update, List.reverse_append,
        List.lookup_append, lastValue?]
      exact Option.or_none
    rw [← last]
    exact Dictionary.mem_iff_get? distinct name value
  · intro name
    change name ∈ Dictionary.names merged ↔ _
    rw [all, List.mem_eraseDups, List.mem_append]

end Titling.Markup.Element
