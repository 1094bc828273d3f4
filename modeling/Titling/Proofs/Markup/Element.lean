import Titling.Markup.Element
import Titling.Proofs.Dictionary

/-! Attributes of elements: when one is there, and which ones a merged element has. -/

namespace Titling.Markup.Element

/-- An attribute is there if its name stands among the names. -/
theorem has_iff (element : Element) (name : String) :
    element.has name = true ↔ name ∈ Dictionary.names element.attributes := by
  simp [has, Dictionary.names]

/-- An attribute is there if it can be read. -/
theorem isSome_get? (element : Element) (name : String) :
    (element.get? name).isSome = element.has name := by
  rw [Bool.eq_iff_iff, get?, List.lookup_isSome_iff, has, List.any_eq_true]
  simp only [beq_iff_eq, eq_comm (a := name)]

/-- Reading gives nothing if the attribute is not there. -/
theorem get?_of_has_false {element : Element} {name : String} (absent : element.has name = false) :
    element.get? name = none := by
  rw [← Option.not_isSome_iff_eq_none, isSome_get?, absent]
  decide

/-- Entries that all have a value are all kept. -/
theorem present_map_some (entries : List (String × String)) :
    present (entries.map fun pair => (pair.1, some pair.2)) = entries := by
  rw [present, List.filterMap_map]
  exact List.filterMap_some

/-- Of two elements the content lays its attributes over those of the layout. -/
theorem merge_some (layout content : Element) :
    merge (some layout) (some content) = some {
      tag := content.tag
      attributes := Dictionary.update layout.attributeMap content.attributeMap
      children := if content.children.isEmpty then layout.children else content.children } := by
  -- The layout's entries all have values, so making them optional for the override loses none.
  simp only [merge, withAttributes, ofOptional, withChildren, attributeMap]
  rw [Dictionary.update_map some, present_map_some]

/-- The names of the attribute map are the names of the attributes. -/
theorem mem_names_attributeMap (element : Element) (name : String) :
    name ∈ Dictionary.names element.attributeMap ↔ element.has name = true := by
  rw [attributeMap, Dictionary.ofEntries, Dictionary.mem_names_update, has_iff]
  simp [Dictionary.names]

/-- A merged element has the attributes that one of the elements has, and no others. -/
theorem has_of_merge {layout content : Option Element} {merged : Element} {name : String}
    (merging : merge layout content = some merged) :
    merged.has name = true ↔
      content.any (·.has name) = true ∨ layout.any (·.has name) = true := by
  -- Where one of the two is missing the other one is the answer.
  match layout, content with
  | none, none => simp [merge] at merging
  | none, some content =>
    simp only [merge, Option.some.injEq] at merging
    simp [merging]
  | some layout, none =>
    simp only [merge, Option.some.injEq] at merging
    simp [merging]
  | some layout, some content =>
    rw [merge_some, Option.some.injEq] at merging
    subst merging
    -- A name of the merged element is an old one of the layout or a new one of the content.
    rw [has_iff, Dictionary.mem_names_update, mem_names_attributeMap, mem_names_attributeMap]
    exact Or.comm

/-- A merged element lacks an attribute that both elements lack. -/
theorem has_false_of_merge {layout content : Option Element} {merged : Element} {name : String}
    (merging : merge layout content = some merged)
    (contentBare : content.any (·.has name) = false)
    (layoutBare : layout.any (·.has name) = false) : merged.has name = false := by
  rw [← Bool.not_eq_true, has_of_merge merging, contentBare, layoutBare]
  decide

end Titling.Markup.Element
