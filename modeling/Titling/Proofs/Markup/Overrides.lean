import Titling.Proofs.Markup.Readings

/-!
Overrides of attributes, made one after another or laid over each other before.

Both ways give every attribute the same value. They give the same element unless a name that the
first overrides take away is given a value by the second ones: in turn it is put behind the others
then, and else it stays in its place.
-/

namespace Titling.Markup.Element

/-- An entry without a value is left out. -/
theorem present_cons_none (name : String) (rest : List (String × Option String)) :
    present ((name, none) :: rest) = present rest :=
  rfl

/-- An entry with a value is kept. -/
theorem present_cons_some (name value : String) (rest : List (String × Option String)) :
    present ((name, some value) :: rest) = (name, value) :: present rest :=
  rfl

/-- Reading an entry under a name gives its value, if it has one. -/
theorem get?_present {entries : Dictionary (Option String)}
    (distinct : (Dictionary.names entries).Nodup) (name : String) :
    Dictionary.get? name (present entries) = (Dictionary.get? name entries).join := by
  -- An entry is kept or left out by itself, so the induction takes one entry after the other.
  induction entries with
  | nil => rfl
  | cons entry rest ih =>
    obtain ⟨key, value⟩ := entry
    obtain ⟨alone, others⟩ := List.nodup_cons.mp distinct
    have later := ih others
    cases value with
    | none =>
      rw [present_cons_none, later, Dictionary.get?]
      split
      · -- The name stands here without a value, and it does not stand in the rest.
        rename_i same
        have absent : Dictionary.get? name rest = none :=
          (Dictionary.get?_eq_none_iff name rest).mpr (same ▸ alone)
        rw [absent]
        rfl
      · rfl
    | some value =>
      rw [present_cons_some, Dictionary.get?, Dictionary.get?]
      split
      · rfl
      · exact later

/-- The names that are kept are those that do not stand without a value. -/
theorem names_present {entries : Dictionary (Option String)}
    (distinct : (Dictionary.names entries).Nodup) :
    Dictionary.names (present entries) =
      (Dictionary.names entries).filter fun name => Dictionary.get? name entries ≠ some none := by
  induction entries with
  | nil => rfl
  | cons entry rest ih =>
    obtain ⟨key, value⟩ := entry
    obtain ⟨alone, others⟩ := List.nodup_cons.mp distinct
    -- The other names are read from the rest, as they are different from the first one.
    have later : (Dictionary.names rest).filter
        (fun name => Dictionary.get? name ((key, value) :: rest) ≠ some none) =
          Dictionary.names (present rest) := by
      rw [ih others]
      apply List.filter_congr
      intro name inside
      have apart : key ≠ name := fun same => alone (same ▸ inside)
      rw [Dictionary.get?, if_neg apart]
    have head : Dictionary.names ((key, value) :: rest) = key :: Dictionary.names rest := rfl
    -- The first name is kept if it has a value, and the others are those of the rest.
    rw [head, List.filter_cons, later]
    cases value with
    | none => simp [Dictionary.get?, present_cons_none]
    | some value => simp [Dictionary.get?, present_cons_some, Dictionary.names]

/-- Makes one override: puts a value under a name, or takes the name away. -/
def override (attributes : Dictionary String) (change : String × Option String) :
    Dictionary String :=
  match change.2 with
  | some value => Dictionary.put change.1 value attributes
  | none => attributes.filter fun pair => pair.1 ≠ change.1

/-- A value put under a name that has one, or is new, is put among the entries with a value. -/
theorem present_put_some {entries : Dictionary (Option String)} {name : String}
    (kept : Dictionary.get? name entries ≠ some none) (value : String) :
    present (Dictionary.put name (some value) entries) =
      Dictionary.put name value (present entries) := by
  -- The name is put in the place where it stands, or behind all others if it is new.
  induction entries with
  | nil => rfl
  | cons entry rest ih =>
    obtain ⟨key, old⟩ := entry
    rw [Dictionary.get?] at kept
    rw [Dictionary.put]
    by_cases same : key = name
    · -- The old value is there, so the new one takes its place on both sides.
      rw [if_pos same] at kept ⊢
      cases old with
      | none => exact absurd rfl kept
      | some old => rw [present_cons_some, present_cons_some, Dictionary.put, if_pos same]
    · rw [if_neg same] at kept ⊢
      cases old with
      | none => rw [present_cons_none, present_cons_none, ih kept]
      | some old =>
        rw [present_cons_some, present_cons_some, Dictionary.put, if_neg same, ih kept]

/-- A name put without a value is taken away from the entries with a value. -/
theorem present_put_none {entries : Dictionary (Option String)}
    (distinct : (Dictionary.names entries).Nodup) (name : String) :
    present (Dictionary.put name none entries) =
      (present entries).filter fun pair => pair.1 ≠ name := by
  induction entries with
  | nil => rfl
  | cons entry rest ih =>
    obtain ⟨key, old⟩ := entry
    obtain ⟨alone, others⟩ := List.nodup_cons.mp distinct
    -- Either way the entry under the name goes, and the others stay in order.
    rw [Dictionary.put]
    by_cases same : key = name
    · subst same
      -- The name stands here and nowhere else.
      have passed : (present rest).filter (fun pair => pair.1 ≠ key) = present rest := by
        rw [List.filter_eq_self]
        intro pair inside
        have known : pair.1 ∈ Dictionary.names rest :=
          (names_present_sublist rest).subset (List.mem_map_of_mem inside)
        exact decide_eq_true fun same => alone (same ▸ known)
      rw [if_pos rfl, present_cons_none]
      cases old with
      | none => rw [present_cons_none, passed]
      | some old => rw [present_cons_some, List.filter_cons_of_neg (by simp), passed]
    · rw [if_neg same]
      cases old with
      | none => rw [present_cons_none, present_cons_none, ih others]
      | some old =>
        rw [present_cons_some, present_cons_some, List.filter_cons_of_pos (by simpa using same),
          ih others]

/--
An update acts on the entries with a value by one override after another, if it gives no value to a
name that stands there without one.
-/
theorem present_update {entries changes : Dictionary (Option String)}
    (distinct : (Dictionary.names entries).Nodup) (once : (Dictionary.names changes).Nodup)
    (kept : ∀ name value, (name, some value) ∈ changes →
      Dictionary.get? name entries ≠ some none) :
    present (Dictionary.update entries changes) = changes.foldl override (present entries) := by
  -- Induct over the changes; the first one is made on both sides before the others.
  induction changes generalizing entries with
  | nil => rfl
  | cons change rest ih =>
    obtain ⟨name, value⟩ := change
    obtain ⟨alone, others⟩ := List.nodup_cons.mp once
    -- A name that the first change leaves without a value is not among the later ones.
    have still : ∀ other value', (other, some value') ∈ rest →
        Dictionary.get? other (Dictionary.put name value entries) ≠ some none := by
      intro other value' inside
      have known : other ∈ Dictionary.names rest := List.mem_map.mpr ⟨_, inside, rfl⟩
      have apart : name ≠ other := fun same => alone (same ▸ known)
      rw [Dictionary.get?_put, if_neg apart]
      exact kept other value' (List.mem_cons_of_mem _ inside)
    have step : present (Dictionary.put name value entries) =
        override (present entries) (name, value) := by
      cases value with
      | none => exact present_put_none distinct name
      | some value => exact present_put_some (kept name value List.mem_cons_self) value
    rw [Dictionary.update_cons, ih (Dictionary.nodup_names_put name value distinct) others still,
      step, List.foldl_cons]

/-- The attributes of an element as entries that all have a value. -/
def entries (element : Element) : Dictionary (Option String) :=
  element.attributeMap.map fun pair => (pair.1, some pair.2)

/-- The overridden attributes are the entries with a value after the update. -/
theorem attributes_withAttributes (element : Element) (overrides : Dictionary (Option String)) :
    (element.withAttributes overrides).attributes =
      present (Dictionary.update element.entries overrides) :=
  rfl

/-- Each name has one entry, in the order of their first places on the element. -/
theorem names_entries (element : Element) :
    Dictionary.names element.entries = (Dictionary.names element.attributes).eraseDups := by
  rw [← Dictionary.names_ofEntries, Dictionary.names, entries, List.map_map]
  rfl

/-- Each name has one entry. -/
theorem nodup_names_entries (element : Element) : (Dictionary.names element.entries).Nodup := by
  -- The entries are those of a map, which has each name once.
  rw [names_entries, ← Dictionary.names_ofEntries]
  exact Dictionary.nodup_names_ofEntries element.attributes

/-- The entry under a name is the last value that the element gives to it. -/
theorem get?_entries (element : Element) (name : String) :
    Dictionary.get? name element.entries = (element.lastValue? name).map some := by
  rw [entries, Dictionary.get?_map, get?_attributeMap]

/-- No entry of an element lacks a value. -/
theorem get?_entries_ne (element : Element) (name : String) :
    Dictionary.get? name element.entries ≠ some none := by
  rw [get?_entries]
  cases element.lastValue? name <;> simp

/-- Where each name stands once, the entries with a value are the attributes. -/
theorem present_entries {element : Element}
    (distinct : (Dictionary.names element.attributes).Nodup) :
    present element.entries = element.attributes := by
  rw [entries, attributeMap, Dictionary.ofEntries_of_nodup distinct, present_map_some]

/--
Tells what overriding attributes makes of an element.

Its names stand in the order of their first places, and behind them those that are new, in the order
of the overrides; all that are overridden without a value are left out. The others have the value of
the overrides, or else the last one they had.
-/
structure IsOverridden (element : Element) (overrides : Dictionary (Option String))
    (result : Element) : Prop where
  tag : result.tag = element.tag
  children : result.children = element.children
  once : (Dictionary.names result.attributes).Nodup
  names : Dictionary.names result.attributes =
    ((Dictionary.names element.attributes).eraseDups ++
      (Dictionary.names overrides).filter fun name =>
        name ∉ Dictionary.names element.attributes).filter fun name =>
          Dictionary.get? name overrides ≠ some none
  value : ∀ name, result.get? name =
    (Dictionary.get? name overrides).getD (element.lastValue? name)

/-- After an update of an element's entries a name has what the overrides or the element give it. -/
theorem get?_update_entries (element : Element) {overrides : Dictionary (Option String)}
    (once : (Dictionary.names overrides).Nodup) (name : String) :
    Dictionary.get? name (Dictionary.update element.entries overrides) =
      (Dictionary.get? name overrides).or ((element.lastValue? name).map some) := by
  rw [Dictionary.get?_update, Dictionary.lookup_reverse once, ← Dictionary.get?_eq_lookup,
    get?_entries]

/-- Overriding attributes gives the names and values that the overrides ask for. -/
theorem isOverridden_withAttributes (element : Element) {overrides : Dictionary (Option String)}
    (once : (Dictionary.names overrides).Nodup) :
    element.IsOverridden overrides (element.withAttributes overrides) where
  tag := rfl
  children := rfl
  once := element.nodup_names_withAttributes overrides
  names := by
    -- An update of a map appends only names that are new, so the order is known.
    have distinct := Dictionary.nodup_names_update overrides element.nodup_names_entries
    rw [attributes_withAttributes, names_present distinct,
      Dictionary.names_update_of_nodup _ once, names_entries]
    simp only [List.mem_eraseDups]
    apply List.filter_congr
    intro name _
    -- What the element has has a value, so only an override can be without one.
    rw [element.get?_update_entries once]
    cases Dictionary.get? name overrides with
    | none => cases element.lastValue? name <;> simp
    | some value => simp
  value := by
    -- The value is that of the last override for the name, and each name has only one.
    intro name
    have distinct := Dictionary.nodup_names_update overrides element.nodup_names_entries
    rw [get?, attributes_withAttributes, ← Dictionary.get?_eq_lookup, get?_present distinct,
      element.get?_update_entries once]
    cases Dictionary.get? name overrides with
    | none => cases element.lastValue? name <;> rfl
    | some value => rfl

/-- Tells that no name which the first overrides take away is given a value by the second ones. -/
def RevivesNothing (first second : Dictionary (Option String)) : Prop :=
  ∀ name value, Dictionary.get? name first = some none →
    Dictionary.get? name second ≠ some (some value)

/-- Overrides that revive nothing may be made in turn, or laid over each other before. -/
theorem withAttributes_withAttributes (element : Element)
    {first second : Dictionary (Option String)} (once : (Dictionary.names first).Nodup)
    (once' : (Dictionary.names second).Nodup) (revives : RevivesNothing first second) :
    (element.withAttributes first).withAttributes second =
      element.withAttributes (Dictionary.update first second) := by
  have distinct := Dictionary.nodup_names_update first element.nodup_names_entries
  -- Only the first overrides can have left a name without a value.
  have removed : ∀ name value, (name, some value) ∈ second →
      Dictionary.get? name (Dictionary.update element.entries first) ≠ some none := by
    intro name value inside gone
    rw [element.get?_update_entries once] at gone
    cases overridden : Dictionary.get? name first with
    | none =>
      rw [overridden, Option.none_or] at gone
      cases given : element.lastValue? name <;> simp [given] at gone
    | some old =>
      rw [overridden, Option.some_or] at gone
      exact revives name value (overridden.trans gone)
        ((Dictionary.mem_iff_get? once' name _).mp inside)
  -- Either way the second overrides act on what the first ones left with a value.
  have attributes : ((element.withAttributes first).withAttributes second).attributes =
      (element.withAttributes (Dictionary.update first second)).attributes := by
    calc ((element.withAttributes first).withAttributes second).attributes
      _ = present (Dictionary.update (element.withAttributes first).entries second) :=
        attributes_withAttributes _ _
      _ = second.foldl override (present (element.withAttributes first).entries) :=
        present_update (nodup_names_entries _) once' fun name _ _ => get?_entries_ne _ name
      _ = second.foldl override (present (Dictionary.update element.entries first)) := by
        rw [present_entries (element.nodup_names_withAttributes first),
          attributes_withAttributes]
      _ = present (Dictionary.update (Dictionary.update element.entries first) second) :=
        (present_update distinct once' removed).symm
      _ = present (Dictionary.update element.entries (Dictionary.update first second)) := by
        rw [Dictionary.update_assoc _ once]
      _ = (element.withAttributes (Dictionary.update first second)).attributes :=
        (attributes_withAttributes _ _).symm
  exact congrArg (fun attributes => Element.mk element.tag attributes element.children) attributes

/--
Overrides made in turn give every attribute what the second ones laid over the first give it.

The two elements are the same, in the order of their attributes too, if no name that the first
overrides take away is given a value by the second ones. Every element that comes of overriding has
each name once: those that are kept in the order of their first places, and new ones behind them.
-/
theorem overrides_compose (element : Element) {first second : Dictionary (Option String)}
    (once : (Dictionary.names first).Nodup) (once' : (Dictionary.names second).Nodup) :
    (∀ name, ((element.withAttributes first).withAttributes second).get? name =
      (element.withAttributes (Dictionary.update first second)).get? name) ∧
    (RevivesNothing first second →
      (element.withAttributes first).withAttributes second =
        element.withAttributes (Dictionary.update first second)) ∧
    element.IsOverridden first (element.withAttributes first) ∧
    (element.withAttributes first).IsOverridden second
      ((element.withAttributes first).withAttributes second) ∧
    element.IsOverridden (Dictionary.update first second)
      (element.withAttributes (Dictionary.update first second)) := by
  have once'' := Dictionary.nodup_names_update second once
  have start := element.isOverridden_withAttributes once
  have stepwise := (element.withAttributes first).isOverridden_withAttributes once'
  have whole := element.isOverridden_withAttributes once''
  refine ⟨fun name => ?_, element.withAttributes_withAttributes once once', start, stepwise, whole⟩
  -- After the first step each name stands once, so its last value is the one that is read.
  have settled : (element.withAttributes first).lastValue? name =
      (Dictionary.get? name first).getD (element.lastValue? name) := by
    rw [← start.value name]
    exact (settled_of_nodup start.once name).symm
  rw [stepwise.value, whole.value, settled, Dictionary.get?_update,
    Dictionary.lookup_reverse once', ← Dictionary.get?_eq_lookup]
  cases Dictionary.get? name second <;> rfl

/-- An element with a name that stands twice. -/
def styledTitle : Element :=
  { tag := "title", attributes := [("class", "a"), ("id", "x"), ("class", "b")] }

/-- Overrides that take a name away and bring a new one. -/
def anonymous : Dictionary (Option String) :=
  [("id", none), ("lang", some "en")]

/-- Overrides that change a name, take away a new one and bring another one. -/
def restyled : Dictionary (Option String) :=
  [("class", some "c"), ("lang", none), ("dir", some "ltr")]

/-- Nothing that is taken away comes back, so both ways of overriding give the same element. -/
theorem overrides_compose_styledTitle :
    (Dictionary.names anonymous).Nodup ∧ (Dictionary.names restyled).Nodup ∧
    RevivesNothing anonymous restyled ∧
    (styledTitle.withAttributes anonymous).withAttributes restyled =
      styledTitle.withAttributes (Dictionary.update anonymous restyled) ∧
    ((styledTitle.withAttributes anonymous).withAttributes restyled).attributes =
      [("class", "c"), ("dir", "ltr")] := by
  have once : (Dictionary.names anonymous).Nodup := by decide
  have once' : (Dictionary.names restyled).Nodup := by decide
  have revives : RevivesNothing anonymous restyled := by
    intro name value gone
    -- Only one name is taken away by the first overrides.
    by_cases same : name = "id"
    · subst same
      simp [restyled, Dictionary.get?]
    · simp [anonymous, Dictionary.get?, Ne.symm same] at gone
  obtain ⟨-, compose, -⟩ := overrides_compose styledTitle once once'
  exact ⟨once, once', revives, compose revives, by decide⟩

/-- A name that is taken away and given again moves behind the others, or else keeps its place. -/
example :
    ((styledTitle.withAttributes [("class", none)]).withAttributes
      [("class", some "c")]).attributes = [("id", "x"), ("class", "c")] ∧
    (styledTitle.withAttributes (Dictionary.update [("class", none)]
      [("class", some "c")])).attributes = [("class", "c"), ("id", "x")] := by
  decide

end Titling.Markup.Element
