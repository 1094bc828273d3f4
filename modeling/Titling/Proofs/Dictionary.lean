import Titling.Dictionary

/-!
Laws of ordered dictionaries: the names after an update, their order, and updates of changed values.

Updates are associative where each name has one place, and names keep the order of their first
places.
-/

namespace Titling.Dictionary

variable {α β ν : Type} [DecidableEq ν]

/-- Putting a value adds its name and no other. -/
theorem mem_names_put (name other : ν) (value : α) (entries : Dictionary α ν) :
    other ∈ names (put name value entries) ↔ other ∈ names entries ∨ other = name := by
  rw [names_put]
  -- A name that is there keeps its place, and a new one comes behind the others.
  split
  · rename_i known
    constructor
    · exact .inl
    · rintro (inside | rfl)
      · exact inside
      · exact known
  · simp

/-- The first of several changes is put before the others. -/
theorem update_cons (base : Dictionary α ν) (name : ν) (value : α) (rest : Dictionary α ν) :
    update base ((name, value) :: rest) = update (put name value base) rest :=
  rfl

/-- An update adds the names of the changes and no others. -/
theorem mem_names_update (base changes : Dictionary α ν) (name : ν) :
    name ∈ names (update base changes) ↔ name ∈ names base ∨ name ∈ names changes := by
  -- Induct over the changes: each one adds its own name before the rest of them is made.
  induction changes generalizing base with
  | nil => simp [update, names]
  | cons change rest ih =>
    rw [update_cons, ih, mem_names_put]
    simp only [names, List.map_cons, List.mem_cons, or_assoc]

/-- Putting a changed value is changing the values after putting. -/
theorem put_map (change : α → β) (name : ν) (value : α) (entries : Dictionary α ν) :
    put name (change value) (entries.map fun pair => (pair.1, change pair.2)) =
      (put name value entries).map fun pair => (pair.1, change pair.2) := by
  -- The names stay what they are, so that the put stops at the same entry.
  induction entries with
  | nil => rfl
  | cons entry rest ih =>
    by_cases same : entry.1 = name
    · simp [put, same]
    · simp [put, same, ih]

/-- Updating with changed values is changing the values after the update. -/
theorem update_map (change : α → β) (base changes : Dictionary α ν) :
    update (base.map fun pair => (pair.1, change pair.2))
        (changes.map fun pair => (pair.1, change pair.2)) =
      (update base changes).map fun pair => (pair.1, change pair.2) := by
  induction changes generalizing base with
  | nil => rfl
  | cons entry rest ih =>
    simp only [update, List.map_cons, List.foldl_cons] at ih ⊢
    rw [put_map, ih]

/-- Changes may be made in two parts, one after the other. -/
theorem update_append (base first second : Dictionary α ν) :
    update base (first ++ second) = update (update base first) second :=
  List.foldl_append

/-- After an update a name has the value that the changes give it last, or else the one it had. -/
theorem get?_update (base changes : Dictionary α ν) (name : ν) :
    get? name (update base changes) = (changes.reverse.lookup name).or (get? name base) := by
  -- The first change is the last one to be asked.
  induction changes generalizing base with
  | nil => rfl
  | cons change rest ih =>
    rw [update_cons, ih, get?_put, List.reverse_cons, List.lookup_append, Option.or_assoc]
    obtain ⟨key, value⟩ := change
    by_cases same : key = name
    · simp [same]
    · simp [same, List.lookup_cons, beq_false_of_ne (Ne.symm same)]

/-- Reading a name is looking it up among the entries. -/
theorem get?_eq_lookup (name : ν) (entries : Dictionary α ν) :
    get? name entries = entries.lookup name := by
  induction entries with
  | nil => rfl
  | cons entry rest ih =>
    obtain ⟨key, value⟩ := entry
    by_cases same : key = name
    · simp [get?, same]
    · simp [get?, same, ih, List.lookup_cons, beq_false_of_ne (Ne.symm same)]

/-- A new name is put at the end. -/
theorem put_of_not_mem {name : ν} {entries : Dictionary α ν} (new : name ∉ names entries)
    (value : α) : put name value entries = entries ++ [(name, value)] := by
  -- Induct over the entries: none of them has the name, so that the put goes past them all.
  induction entries with
  | nil => rfl
  | cons entry rest ih =>
    rw [names, List.map_cons, List.mem_cons, not_or] at new
    rw [put, if_neg (Ne.symm new.1), ih new.2, List.cons_append]

/-- Changes under new names, of which each has one place, are put behind the entries. -/
theorem update_of_nodup {base changes : Dictionary α ν}
    (distinct : (names (base ++ changes)).Nodup) : update base changes = base ++ changes := by
  -- Induct over the changes: each one comes behind the base, which is then that of the others.
  induction changes generalizing base with
  | nil => exact (List.append_nil base).symm
  | cons change rest ih =>
    have new : change.1 ∉ names base := by
      intro known
      rw [names, List.map_append, List.nodup_append] at distinct
      exact distinct.2.2 change.1 known change.1 (by simp) rfl
    have together : base ++ change :: rest = base ++ [change] ++ rest := by simp
    rw [update_cons, put_of_not_mem new, together]
    rw [together] at distinct
    exact ih distinct

/-- Entries under distinct names are a dictionary already. -/
theorem ofEntries_of_nodup {entries : Dictionary α ν} (distinct : (names entries).Nodup) :
    ofEntries entries = entries :=
  update_of_nodup distinct

/-- Among changed values a name has its own value changed. -/
theorem get?_map (change : α → β) (name : ν) (entries : Dictionary α ν) :
    get? name (entries.map fun pair => (pair.1, change pair.2)) =
      (get? name entries).map change := by
  induction entries with
  | nil => rfl
  | cons entry rest ih =>
    by_cases same : entry.1 = name
    · simp [get?, same]
    · simpa [get?, same] using ih

/-- The dictionary of entries has the value that they give to a name last. -/
theorem get?_ofEntries (name : ν) (entries : Dictionary α ν) :
    get? name (ofEntries entries) = entries.reverse.lookup name := by
  rw [ofEntries, get?_update]
  exact Option.or_none

/-- Of two values put under one name in turn the second stays. -/
theorem put_put (name : ν) (first second : α) (entries : Dictionary α ν) :
    put name second (put name first entries) = put name second entries := by
  -- Both values are put where the name stands first, or else at the end.
  induction entries with
  | nil => simp [put]
  | cons entry rest ih =>
    by_cases same : entry.1 = name
    · simp [put, same]
    · simp [put, same, ih]

/-- A name that has its place already may be put before or after another name. -/
theorem put_comm {name other : ν} {entries : Dictionary α ν} (known : name ∈ names entries)
    (apart : name ≠ other) (value changed : α) :
    put name value (put other changed entries) = put other changed (put name value entries) := by
  induction entries with
  | nil => simp [names] at known
  | cons entry rest ih =>
    obtain ⟨key, old⟩ := entry
    -- The first entry is under one of the two names or under neither of them.
    by_cases first : key = name
    · subst first
      simp [put, apart]
    · have later : name ∈ names rest := by
        simpa [names, Ne.symm first] using known
      by_cases second : key = other
      · subst second
        simp [put, first]
      · simp [put, first, second, ih later]

/-- A name that has its place may be put before an update that does not have it, or after. -/
theorem put_update {name : ν} {base changes : Dictionary α ν} (known : name ∈ names base)
    (untouched : name ∉ names changes) (value : α) :
    put name value (update base changes) = update (put name value base) changes := by
  -- Induct over the changes: each is under another name, so that the put goes past it.
  induction changes generalizing base with
  | nil => rfl
  | cons change rest ih =>
    have apart : name ≠ change.1 := fun same => untouched (by simp [names, same])
    have later : name ∉ names rest := fun inside => untouched (List.mem_cons_of_mem _ inside)
    have still : name ∈ names (put change.1 change.2 base) :=
      (mem_names_put _ _ _ _).mpr (.inl known)
    rw [update_cons, update_cons, ih still later, put_comm known apart]

/-- A change put into changes in which each name has one place is made last. -/
theorem update_put (base : Dictionary α ν) {changes : Dictionary α ν}
    (distinct : (names changes).Nodup) (name : ν) (value : α) :
    update base (put name value changes) = put name value (update base changes) := by
  induction changes generalizing base with
  | nil => rfl
  | cons change rest ih =>
    obtain ⟨key, old⟩ := change
    obtain ⟨alone, others⟩ := List.nodup_cons.mp distinct
    by_cases same : key = name
    · -- The value stands in the place of the old one, which is put before it otherwise.
      subst same
      have known : key ∈ names (put key old base) := (mem_names_put _ _ _ _).mpr (.inr rfl)
      rw [put, if_pos rfl, update_cons, update_cons, put_update known alone, put_put]
    · rw [put, if_neg same, update_cons, update_cons, ih _ others]

/-- Putting a value keeps each name at one place. -/
theorem nodup_names_put (name : ν) (value : α) {entries : Dictionary α ν}
    (distinct : (names entries).Nodup) : (names (put name value entries)).Nodup := by
  rw [names_put]
  -- A name that is there adds nothing, and a new one is none of those before it.
  split
  · exact distinct
  · rename_i fresh
    rw [List.nodup_append]
    refine ⟨distinct, by simp, ?_⟩
    rintro other inside last lastly rfl
    exact fresh (List.mem_singleton.mp lastly ▸ inside)

/-- An update keeps each name at one place, however often the changes have one. -/
theorem nodup_names_update {base : Dictionary α ν} (changes : Dictionary α ν)
    (distinct : (names base).Nodup) : (names (update base changes)).Nodup := by
  induction changes generalizing base with
  | nil => exact distinct
  | cons change rest ih => exact ih (nodup_names_put change.1 change.2 distinct)

/-- In the dictionary of any entries each name has one place. -/
theorem nodup_names_ofEntries (entries : Dictionary α ν) : (names (ofEntries entries)).Nodup :=
  nodup_names_update entries List.nodup_nil

/-- Updates may be made in turn, or the second one may be laid over the first before. -/
theorem update_assoc (base : Dictionary α ν) {first : Dictionary α ν}
    (distinct : (names first).Nodup) (second : Dictionary α ν) :
    update (update base first) second = update base (update first second) := by
  induction second generalizing first with
  | nil => rfl
  | cons change rest ih =>
    obtain ⟨name, value⟩ := change
    -- What the second update changes first may as well be changed in the first one.
    rw [update_cons, ← update_put base distinct, ih (nodup_names_put name value distinct),
      update_cons]

/-- Entries change a dictionary as the dictionary made of them does. -/
theorem update_ofEntries (base changes : Dictionary α ν) :
    update base (ofEntries changes) = update base changes := by
  have nothing : (names ([] : Dictionary α ν)).Nodup := List.nodup_nil
  exact (update_assoc base nothing changes).symm

/-- In front of other entries a dictionary stands for the entries that it is made of. -/
theorem ofEntries_ofEntries_append (first second : Dictionary α ν) :
    ofEntries (ofEntries first ++ second) = ofEntries (first ++ second) := by
  calc ofEntries (ofEntries first ++ second)
    _ = update (update [] (ofEntries first)) second := update_append _ _ _
    _ = update (update [] first) second := by rw [update_ofEntries]
    _ = ofEntries (first ++ second) := (update_append _ _ _).symm

/-- Behind other entries a dictionary stands for the entries that it is made of. -/
theorem ofEntries_append_ofEntries (first second : Dictionary α ν) :
    ofEntries (first ++ ofEntries second) = ofEntries (first ++ second) := by
  calc ofEntries (first ++ ofEntries second)
    _ = update (update [] first) (ofEntries second) := update_append _ _ _
    _ = update (update [] first) second := update_ofEntries _ _
    _ = ofEntries (first ++ second) := (update_append _ _ _).symm

/-- An update has the names of the base, and behind them those that are new, in order. -/
theorem names_update (base changes : Dictionary α ν) :
    names (update base changes) =
      names base ++ ((names changes).filter fun name => name ∉ names base).eraseDups := by
  -- Induct over the changes: those behind a new name do not add it once more.
  induction changes generalizing base with
  | nil => simp [update, names]
  | cons change rest ih =>
    obtain ⟨name, value⟩ := change
    have head : names ((name, value) :: rest) = name :: names rest := rfl
    rw [update_cons, ih, names_put, head]
    by_cases known : name ∈ names base
    · rw [if_pos known, List.filter_cons_of_neg (by simpa using known)]
    · -- The name is new once, and any later place of it adds nothing.
      rw [if_neg known, List.filter_cons_of_pos (by simpa using known), List.eraseDups_cons,
        List.filter_filter, List.append_assoc, List.singleton_append]
      congr 3
      apply List.filter_congr
      intro other _
      by_cases same : other = name <;> simp [same]

/-- Distinct items stay as they are when repeated ones are left out. -/
theorem eraseDups_of_nodup {items : List ν} (distinct : items.Nodup) : items.eraseDups = items := by
  -- Nothing behind an item is the same as it, so that nothing is left out.
  induction items with
  | nil => rfl
  | cons item rest ih =>
    obtain ⟨alone, others⟩ := List.nodup_cons.mp distinct
    have passed : rest.filter (fun other => !other == item) = rest := by
      rw [List.filter_eq_self]
      intro other inside
      have apart : other ≠ item := fun same => alone (same ▸ inside)
      simpa using apart
    rw [List.eraseDups_cons, passed, ih others]

/-- An update under distinct names puts the new ones behind the others, in their order. -/
theorem names_update_of_nodup (base : Dictionary α ν) {changes : Dictionary α ν}
    (distinct : (names changes).Nodup) :
    names (update base changes) =
      names base ++ (names changes).filter fun name => name ∉ names base := by
  rw [names_update, eraseDups_of_nodup (distinct.filter _)]

/-- Nothing is read under a name exactly if it has no entry. -/
theorem get?_eq_none_iff (name : ν) (entries : Dictionary α ν) :
    get? name entries = none ↔ name ∉ names entries := by
  induction entries with
  | nil => simp [names, get?]
  | cons entry rest ih =>
    obtain ⟨key, value⟩ := entry
    by_cases same : key = name
    · simp [names, get?, same]
    · rw [get?, if_neg same, ih]
      simp [names, Ne.symm same]

/-- The names of the dictionary of entries stand in the order of their first places. -/
theorem names_ofEntries (entries : Dictionary α ν) :
    names (ofEntries entries) = (names entries).eraseDups := by
  rw [ofEntries, names_update, List.filter_eq_self.mpr]
  · rfl
  · intro name _
    simp [names]

/-- In a dictionary with each name at one place the entries are what is read under their names. -/
theorem mem_iff_get? {entries : Dictionary α ν} (distinct : (names entries).Nodup) (name : ν)
    (value : α) : (name, value) ∈ entries ↔ get? name entries = some value := by
  -- Induct over the entries: the first one under a name is also the only one.
  induction entries with
  | nil => simp [get?]
  | cons entry rest ih =>
    obtain ⟨key, first⟩ := entry
    obtain ⟨alone, others⟩ := List.nodup_cons.mp distinct
    rw [List.mem_cons, Prod.mk.injEq, get?]
    by_cases same : key = name
    · subst same
      have later : (key, value) ∉ rest := fun inside =>
        alone (List.mem_map.mpr ⟨(key, value), inside, rfl⟩)
      simp [later, eq_comm]
    · simp [same, Ne.symm same, ih others]

/-- Where each name stands once, its first value is its last one. -/
theorem lookup_reverse {entries : Dictionary α ν} (distinct : (names entries).Nodup) (name : ν) :
    entries.reverse.lookup name = entries.lookup name := by
  -- The reversed entries have distinct names as well.
  have reversed : (names entries.reverse).Nodup := by
    rw [names, List.map_reverse]
    exact (List.reverse_perm _).nodup_iff.mpr distinct
  ext value
  -- Under distinct names what is read is what is there, and the order does not matter for that.
  rw [← get?_eq_lookup, ← get?_eq_lookup, ← mem_iff_get? reversed, ← mem_iff_get? distinct,
    List.mem_reverse]

end Titling.Dictionary
