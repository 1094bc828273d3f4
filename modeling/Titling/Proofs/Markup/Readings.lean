import Titling.Proofs.Markup.Merge

/-!
Reading an attribute by itself and from the map of all attributes.

By itself it has the value at its first place, in the map that at its last place. The two are the
same where each name stands once, which an element that is made directly does not promise.
-/

namespace Titling.Markup.Element

/-- Tells that an element gives an attribute the same value at its first and at its last place. -/
def Settled (element : Element) (name : String) : Prop :=
  element.get? name = element.lastValue? name

/-- An element that has each name once gives all its attributes one value. -/
theorem settled_of_nodup {element : Element}
    (distinct : (Dictionary.names element.attributes).Nodup) (name : String) :
    element.Settled name :=
  (Dictionary.lookup_reverse distinct name).symm

/-- The map of the attributes has the last value. -/
theorem get?_attributeMap (element : Element) (name : String) :
    Dictionary.get? name element.attributeMap = element.lastValue? name :=
  Dictionary.get?_ofEntries name element.attributes

/-- An attribute has a last value if it is there. -/
theorem isSome_lastValue? (element : Element) (name : String) :
    (element.lastValue? name).isSome = element.has name := by
  rw [Bool.eq_iff_iff, lastValue?, List.lookup_isSome_iff, has, List.any_eq_true]
  simp only [List.mem_reverse, beq_iff_eq, eq_comm (a := name)]

/-- Overriding nothing leaves each name once, with its last value. -/
theorem withAttributes_nil (element : Element) :
    element.withAttributes [] = { element with attributes := element.attributeMap } := by
  simp only [withAttributes, ofOptional, Dictionary.update, List.foldl_nil, present_map_some]

/-- Leaving out entries without a value brings no name to a second place. -/
theorem names_present_sublist (entries : List (String × Option String)) :
    (Dictionary.names (present entries)).Sublist (Dictionary.names entries) := by
  -- What is left out is an entry as a whole, so the names keep their order.
  induction entries with
  | nil => exact List.Sublist.refl _
  | cons entry rest ih =>
    obtain ⟨name, value⟩ := entry
    cases value with
    | none => exact ih.cons name
    | some value => exact ih.cons_cons name

/-- Overriding attributes leaves each name once. -/
theorem nodup_names_withAttributes (element : Element)
    (overrides : Dictionary (Option String)) :
    (Dictionary.names (element.withAttributes overrides).attributes).Nodup := by
  -- A map has each name once, and an update of it keeps that.
  have current : (Dictionary.names
      (element.attributeMap.map fun pair => (pair.1, some pair.2))).Nodup := by
    rw [Dictionary.names, List.map_map]
    exact Dictionary.nodup_names_ofEntries element.attributes
  exact (names_present_sublist _).nodup (Dictionary.nodup_names_update overrides current)

/-- A merged element has the last value of the content, or else that of the layout. -/
theorem get?_of_merge {layout content merged : Element}
    (merging : merge (some layout) (some content) = some merged) (name : String) :
    merged.get? name = (content.lastValue? name).or (layout.lastValue? name) := by
  -- A merged element is read from one map, in which the entries of the content come last.
  rw [merge_some_eq, Option.some.injEq] at merging
  rw [← merging, get?, ← Dictionary.get?_eq_lookup, Dictionary.get?_ofEntries,
    List.reverse_append, List.lookup_append]
  rfl

/-- A merged element has each name once. -/
theorem nodup_names_of_merge {layout content merged : Element}
    (merging : merge (some layout) (some content) = some merged) :
    (Dictionary.names merged.attributes).Nodup := by
  rw [merge_some_eq, Option.some.injEq] at merging
  rw [← merging]
  exact Dictionary.nodup_names_ofEntries _

/--
The two readings of an attribute agree exactly where its first value is also its last one.

Exactly then overriding nothing keeps what is read, and a merged element is read as the content is,
or as the layout where the content lacks the attribute. It is so where each name stands once, as in
every element that comes from overriding attributes or from a merge.
-/
theorem readings_agree_iff (name : String) :
    (∀ element : Element,
      (element.get? name = Dictionary.get? name element.attributeMap ↔ element.Settled name) ∧
      ((element.withAttributes []).get? name = element.get? name ↔ element.Settled name) ∧
      ((Dictionary.names element.attributes).Nodup → element.Settled name) ∧
      ∀ overrides, (element.withAttributes overrides).Settled name) ∧
    ∀ layout content : Element, ∃ merged, merge (some layout) (some content) = some merged ∧
      merged.Settled name ∧
      (merged.get? name = (if content.has name then content.get? name else layout.get? name) ↔
        if content.has name then content.Settled name else layout.Settled name) := by
  refine ⟨fun element => ⟨?_, ?_, ?_, ?_⟩, fun layout content => ?_⟩
  · rw [get?_attributeMap, Settled]
  · -- Overriding nothing goes through the map, which has the last value.
    have read : (element.withAttributes []).get? name = element.lastValue? name := by
      rw [withAttributes_nil, get?, ← Dictionary.get?_eq_lookup, get?_attributeMap]
    rw [read, Settled, eq_comm]
  · exact fun distinct => settled_of_nodup distinct name
  · exact fun overrides => settled_of_nodup (element.nodup_names_withAttributes overrides) name
  · obtain ⟨merged, merging⟩ : ∃ merged, merge (some layout) (some content) = some merged :=
      ⟨_, merge_some_eq layout content⟩
    refine ⟨merged, merging, settled_of_nodup (nodup_names_of_merge merging) name, ?_⟩
    rw [get?_of_merge merging]
    -- The content decides if it has the attribute, and is passed over if it does not.
    have present := content.isSome_lastValue? name
    cases there : content.lastValue? name with
    | some value =>
      rw [there] at present
      rw [← present, Option.some_or]
      simp [Settled, there, eq_comm]
    | none =>
      rw [there] at present
      rw [← present, Option.none_or]
      simp [Settled, eq_comm]

/-- An element that has each of two names once. -/
def plainTitle : Element :=
  { tag := "title", attributes := [("class", "b"), ("th:text", "'A'")] }

/-- An element that has one name twice, with different values. -/
def repeatedTitle : Element :=
  { tag := "title", attributes := [("th:text", "'A'"), ("th:text", "'B'")] }

/-- Where each name stands once, the readings agree, and merging keeps what is read. -/
theorem readings_agree_plainTitle :
    (Dictionary.names plainTitle.attributes).Nodup ∧ plainTitle.Settled "th:text" ∧
    plainTitle.get? "th:text" = Dictionary.get? "th:text" plainTitle.attributeMap ∧
    ∃ merged, merge (some repeatedTitle) (some plainTitle) = some merged ∧
      merged.get? "th:text" = some "'A'" := by
  obtain ⟨read, merging⟩ := readings_agree_iff "th:text"
  obtain ⟨agree, -, settles, -⟩ := read plainTitle
  have distinct : (Dictionary.names plainTitle.attributes).Nodup := by decide
  have settled := settles distinct
  refine ⟨distinct, settled, agree.mpr settled, ?_⟩
  obtain ⟨merged, known, -, kept⟩ := merging repeatedTitle plainTitle
  exact ⟨merged, known, kept.mpr settled⟩

/-- Where a name stands twice, an override or a merge that adds nothing changes what is read. -/
theorem readings_differ_repeatedTitle :
    repeatedTitle.get? "th:text" ≠ Dictionary.get? "th:text" repeatedTitle.attributeMap ∧
    (repeatedTitle.withAttributes []).get? "th:text" ≠ repeatedTitle.get? "th:text" ∧
    ∀ merged, merge (some repeatedTitle) (some { tag := "title" }) = some merged →
      merged.get? "th:text" ≠ repeatedTitle.get? "th:text" := by
  refine ⟨by decide, by decide, ?_⟩
  intro merged merging
  obtain rfl := Option.some.inj merging
  decide

end Titling.Markup.Element
