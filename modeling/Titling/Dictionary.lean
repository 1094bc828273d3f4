/-! Ordered dictionaries: a name keeps its first place and takes its last value. -/

namespace Titling

/-- Entries in order under names, mostly texts; the operations below keep each name at one place. -/
abbrev Dictionary (α : Type) (ν : Type := String) := List (ν × α)

namespace Dictionary

variable {α ν : Type} [DecidableEq ν]

/-- Writes a value at the place of its name, or at the end if the name is new. -/
def put (name : ν) (value : α) : Dictionary α ν → Dictionary α ν
  | [] => [(name, value)]
  | (key, old) :: rest =>
    -- An entry under the same name gives its place to the new value.
    if key = name then (name, value) :: rest else (key, old) :: put name value rest

/-- Puts every entry of `changes` in turn, so the last value of a name wins. -/
def update (base changes : Dictionary α ν) : Dictionary α ν :=
  changes.foldl (fun entries change => put change.1 change.2 entries) base

/-- The dictionary of a list of entries in which a name may stand more than once. -/
def ofEntries (entries : List (ν × α)) : Dictionary α ν :=
  update [] entries

/-- The value under a name. -/
def get? (name : ν) : Dictionary α ν → Option α
  | [] => none
  | (key, value) :: rest => if key = name then some value else get? name rest

/-- Tells whether a name has an entry, whatever its value. -/
def contains (name : ν) (entries : Dictionary α ν) : Bool :=
  (get? name entries).isSome

/-- The names in order. -/
def names (entries : Dictionary α ν) : List ν :=
  entries.map Prod.fst

/-- A name reads back the value last put under it, and no other name notices. -/
theorem get?_put (name other : ν) (value : α) (entries : Dictionary α ν) :
    get? other (put name value entries) =
      if name = other then some value else get? other entries := by
  -- Induct over the entries: the value is put at the first one with the name, or at the end.
  induction entries with
  | nil => simp [put, get?]
  | cons entry rest ih =>
    obtain ⟨key, old⟩ := entry
    by_cases same : key = name
    · subst same; by_cases asked : key = other <;> simp [put, get?, asked]
    · by_cases asked : key = other
      · subst asked; simp [put, get?, same, Ne.symm same]
      · simp [put, get?, same, asked, ih]

/-- Putting adds a name only if it is new, and then at the end. -/
theorem names_put (name : ν) (value : α) (entries : Dictionary α ν) :
    names (put name value entries) =
      if name ∈ names entries then names entries else names entries ++ [name] := by
  induction entries with
  | nil => simp [put, names]
  | cons entry rest ih =>
    obtain ⟨key, old⟩ := entry
    simp only [names] at ih ⊢
    by_cases same : key = name
    · simp [put, same]
    -- Behind another name it depends on the other entries whether the name is new.
    · by_cases known : name ∈ rest.map Prod.fst
      · simp [put, same, ih, known]
      · simp [put, same, Ne.symm same, ih, known]

end Dictionary

end Titling
