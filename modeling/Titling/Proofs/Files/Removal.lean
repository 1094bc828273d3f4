import Titling.Proofs.Files.Alike

/-!
Trees from which files are removed: the directories stay, and all other files are read as before.
-/

namespace Titling.FileTree

/-- Tells whether an entry is a file at one of the places to be emptied. -/
def isLost (gone : Path → Bool) (entry : Path × Option ByteArray) : Bool :=
  entry.2.isSome && gone entry.1

/-- A tree without the files at some places; the directories in which they stood stay. -/
def withoutFiles (tree : FileTree) (gone : Path → Bool) : FileTree where
  entries := (tree.entries.filter fun entry => !isLost gone entry) ++
    -- A directory may be told twice so, but that changes nothing that is asked of a tree.
    (tree.entries.filter (isLost gone)).map fun entry => (entry.1.parent, none)

variable {gone : Path → Bool}

/-- What a longer path begins with is what its directory begins with. -/
theorem prefix_parent {head path : Path} (begins : head <+: path) (longer : path ≠ head) :
    head <+: path.parent := by
  rcases List.eq_nil_or_concat path with rfl | ⟨init, last, rfl⟩
  · exact absurd (List.prefix_nil.mp begins).symm longer
  · rw [List.concat_eq_append] at begins longer ⊢
    rw [Path.parent, List.dropLast_concat]
    exact (List.prefix_concat_iff.mp begins).resolve_left (Ne.symm longer)

/-- No path but the root begins the directory that it lies in. -/
theorem eq_nil_of_prefix_parent {path : Path} (begins : path <+: path.parent) : path = [] := by
  -- No path is shorter than itself by its last name.
  have length := begins.length_le
  rw [Path.parent, List.length_dropLast] at length
  exact List.length_eq_zero_iff.mp (by omega)

/-- Removing files keeps every directory, also one in which nothing is left. -/
theorem isDirectory_withoutFiles (tree : FileTree) (gone : Path → Bool) (path : Path) :
    (tree.withoutFiles gone).isDirectory path = tree.isDirectory path := by
  rw [Bool.eq_iff_iff, isDirectory_iff, isDirectory_iff]
  simp only [withoutFiles, List.mem_append, List.mem_filter, List.mem_map]
  constructor
  · rintro (root | ⟨entry, ⟨kept, -⟩ | ⟨lost, ⟨listed, -⟩, rfl⟩, begins, implies⟩)
    · exact .inl root
    · exact .inr ⟨entry, kept, begins, implies⟩
    · -- A directory in which a file stood is one because of the file.
      by_cases same : lost.1 = path
      · subst same
        exact .inl (eq_nil_of_prefix_parent begins)
      · exact .inr ⟨lost, listed, begins.trans (List.dropLast_prefix lost.1), .inl same⟩
  · rintro (root | ⟨entry, listed, begins, implies⟩)
    · exact .inl root
    · cases lost : isLost gone entry with
      | false => exact .inr ⟨entry, .inl ⟨listed, by simp [lost]⟩, begins, implies⟩
      | true =>
        -- A lost file stood in the directory, which is now told in its place.
        have file : entry.2 ≠ none := by
          intro absent
          simp [isLost, absent] at lost
        have above := prefix_parent begins (implies.resolve_right file)
        exact .inr ⟨(entry.1.parent, none), .inr ⟨entry, ⟨listed, lost⟩, rfl⟩, above, .inr rfl⟩

/-- Among directories alone no path is a file. -/
theorem join_lookup_directories (entries : List (Path × Option ByteArray)) (path : Path) :
    ((entries.map fun entry => (entry.1.parent, (none : Option ByteArray))).lookup path).join =
      none := by
  -- Each entry is a directory, be it that of the path or not.
  induction entries with
  | nil => rfl
  | cons entry rest ih =>
    rw [List.map_cons, List.lookup_cons]
    split
    · rfl
    · exact ih

/-- Among the entries that are kept a path is read as before, unless its file is lost. -/
theorem join_lookup_kept (entries : List (Path × Option ByteArray)) (path : Path) :
    ((entries.filter fun entry => !isLost gone entry).lookup path).join =
      if gone path then none else (entries.lookup path).join := by
  -- Induct over the entries: only those of the path itself count, and its files are lost or kept.
  induction entries with
  | nil => simp
  | cons entry rest ih =>
    obtain ⟨place, content⟩ := entry
    by_cases same : path = place
    · subst same
      cases content with
      | none => simp [isLost]
      | some bytes =>
        cases away : gone path with
        | false => simp [isLost, away]
        | true =>
          have lost : isLost gone (path, some bytes) = true := by simp [isLost, away]
          rw [List.filter_cons_of_neg (by simp [lost]), ih]
          simp [away]
    · have apart : (path == place) = false := beq_false_of_ne same
      cases lost : isLost gone (place, content) <;> simp [lost, List.lookup_cons, apart, ih]

/-- Of a tree without some of its files the others are read as before. -/
theorem read?_withoutFiles (tree : FileTree) (gone : Path → Bool) (path : Path) :
    (tree.withoutFiles gone).read? path = if gone path then none else tree.read? path := by
  have directories := join_lookup_directories (tree.entries.filter (isLost gone)) path
  rw [read?, read?, ← join_lookup_kept, withoutFiles, List.lookup_append]
  -- The directories that are told behind the kept entries hold no bytes.
  cases (tree.entries.filter fun entry => !isLost gone entry).lookup path with
  | none => exact directories
  | some content => rfl

/-- Without some files all else stands below a directory that stood there before. -/
theorem mem_below_withoutFiles (tree : FileTree) (gone : Path → Bool) (directory name : Path) :
    name ∈ (tree.withoutFiles gone).below directory ↔
      name ∈ tree.below directory ∧
        (tree.isDirectory (directory ++ name) = true ∨ gone (directory ++ name) = false) := by
  rw [mem_below_iff_exists, mem_below_iff_exists, isDirectory_withoutFiles, isFile, isFile,
    read?_withoutFiles]
  cases gone (directory ++ name) with
  | false => simp
  | true =>
    -- What was a file there is no longer one; a directory is one as before.
    simp only [if_true, Option.isSome_none, Bool.false_eq_true, or_false, Bool.true_eq_false]
    constructor
    · rintro ⟨nonempty, there⟩
      exact ⟨⟨nonempty, .inl there⟩, there⟩
    · rintro ⟨⟨nonempty, -⟩, there⟩
      exact ⟨nonempty, there⟩

end Titling.FileTree
