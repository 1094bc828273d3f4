import Titling.Catalog.Directory
import Titling.Proofs.Dictionary
import Titling.Proofs.Files.Alike

/-! What is read from directories of catalogs: which files, in which order, and what they bind. -/

namespace Titling.Catalog

/-- A path is named as catalog files are if its last name ends so. -/
theorem isCatalogName_iff (path : Path) :
    isCatalogName path = true ↔
      ∃ last, path.getLast? = some last ∧ last.endsWith extension = true := by
  -- Only the last name is asked for its end.
  unfold isCatalogName
  cases path.getLast? with
  | none => simp
  | some last => simp

/-- Where no directory is found, there are no files. -/
theorem filesIn_of_nowhere {tree : FileTree} {directory : Path}
    (nowhere : tree.directoryAt? directory = none) : filesIn tree directory = [] := by
  rw [filesIn, nowhere]

/-- What is at a place where there is no directory, or at none, holds no files. -/
theorem filesIn_of_absent {tree : FileTree} {directory : Path}
    (absent : ∀ place, tree.locate? directory = some place → tree.isDirectory place = false) :
    filesIn tree directory = [] := by
  apply filesIn_of_nowhere
  -- A place that the path leads to is no directory, and without a place there is none.
  rw [FileTree.directoryAt?, Option.filter_eq_none_iff]
  intro place located there
  rw [absent place located] at there
  exact Bool.false_ne_true there

/-- The catalog files of a directory are those below the place that it leads to, in order. -/
theorem filesIn_of_located {tree : FileTree} {directory place : Path}
    (located : tree.locate? directory = some place) (there : tree.isDirectory place = true) :
    filesIn tree directory =
      (((tree.below place).filter isCatalogName).mergeSort Path.le).map (directory ++ ·) := by
  have found : tree.directoryAt? directory = some place := by
    rw [FileTree.directoryAt?, located, Option.filter_some, if_pos there]
  rw [filesIn, found]

/-- A directory's catalog files are all that lie below it, at any depth, under such a name. -/
theorem mem_filesIn_iff (tree : FileTree) (directory file : Path) :
    file ∈ filesIn tree directory ↔
      ∃ place name, tree.locate? directory = some place ∧ file = directory ++ name ∧
        (∃ entry ∈ tree.entries, place ++ name <+: entry.1) ∧
        ∃ last, name.getLast? = some last ∧ last.endsWith extension = true := by
  constructor
  · -- A file that is listed stands below the place, and where no directory is there are none.
    intro inside
    by_cases found : ∃ place, tree.locate? directory = some place ∧ tree.isDirectory place = true
    · obtain ⟨place, located, there⟩ := found
      rw [filesIn_of_located located there, List.mem_map] at inside
      obtain ⟨name, listed, rfl⟩ := inside
      rw [List.mem_mergeSort, List.mem_filter, FileTree.mem_below_iff, isCatalogName_iff] at listed
      exact ⟨place, name, located, rfl, listed.1.2, listed.2⟩
    · rw [filesIn_of_absent] at inside
      · exact absurd inside List.not_mem_nil
      · intro place located
        exact Bool.eq_false_iff.mpr fun there => found ⟨place, located, there⟩
  · rintro ⟨place, name, located, rfl, ⟨entry, inside, begins⟩, named⟩
    have nonempty : name ≠ [] := by
      rintro rfl
      obtain ⟨last, ends, -⟩ := named
      exact absurd ends (by simp)
    -- Something lies below the place, and that makes it a directory.
    have there : tree.isDirectory place = true :=
      FileTree.isDirectory_of_mem_below
        ((FileTree.mem_below_iff tree place name).mpr ⟨nonempty, entry, inside, begins⟩)
    rw [filesIn_of_located located there, List.mem_map]
    refine ⟨name, ?_, rfl⟩
    rw [List.mem_mergeSort, List.mem_filter, FileTree.mem_below_iff, isCatalogName_iff]
    exact ⟨⟨nonempty, entry, inside, begins⟩, named⟩

/-- The catalog files of a directory stand in the order of their paths, each once. -/
theorem pairwise_filesIn (tree : FileTree) (directory : Path) :
    (filesIn tree directory).Pairwise (· < ·) := by
  by_cases found : ∃ place, tree.locate? directory = some place ∧ tree.isDirectory place = true
  · obtain ⟨place, located, there⟩ := found
    rw [filesIn_of_located located there, List.pairwise_map]
    let names := (tree.below place).filter isCatalogName
    have distinct : (names.mergeSort Path.le).Nodup :=
      (List.mergeSort_perm names Path.le).nodup_iff.mpr
        ((FileTree.nodup_below tree place).filter _)
    have ordered : (names.mergeSort Path.le).Pairwise fun first second =>
        Path.le first second = true :=
      List.pairwise_mergeSort Path.le_trans Path.le_total names
    -- Of two names in this order that are not the same one comes before the other.
    refine ordered.imp₂ ?_ distinct
    intro first second before apart
    rw [Path.append_lt_append_iff]
    exact ((Path.le_iff first second).mp before).resolve_left apart
  · rw [filesIn_of_absent]
    · exact List.Pairwise.nil
    · intro place located
      exact Bool.eq_false_iff.mpr fun there => found ⟨place, located, there⟩

/-- A directory's catalog files are those below the place where it is found, under such a name. -/
theorem mem_filesIn_iff_below (tree : FileTree) (directory file : Path) :
    file ∈ filesIn tree directory ↔
      ∃ place name, tree.directoryAt? directory = some place ∧ file = directory ++ name ∧
        name ∈ tree.below place ∧ isCatalogName name = true := by
  unfold filesIn
  cases tree.directoryAt? directory with
  | none => simp
  | some place =>
    simp only [List.mem_map, List.mem_mergeSort, List.mem_filter, Option.some.injEq]
    constructor
    · rintro ⟨name, ⟨below, named⟩, rfl⟩
      exact ⟨place, name, rfl, rfl, below, named⟩
    · -- A name below the place is listed if it is named as catalog files are.
      rintro ⟨_, name, rfl, rfl, below, named⟩
      exact ⟨name, ⟨below, named⟩, rfl⟩

/-- Where the catalog files below a directory are in order already, they are listed as they are. -/
theorem filesIn_of_ordered {tree : FileTree} {directory : Path} {names : List Path}
    (down : Path.up ∉ directory) (there : tree.isDirectory directory = true)
    (below : (tree.below directory).filter isCatalogName = names)
    (ordered : names.Pairwise fun first second => Path.le first second = true) :
    filesIn tree directory = names.map (directory ++ ·) := by
  have found : tree.directoryAt? directory = some directory := by
    rw [FileTree.directoryAt?_of_down tree down, if_pos there]
  rw [filesIn, found]
  simp only [below]
  rw [List.mergeSort_of_pairwise ordered]

/-- The texts that a catalog file binds, in the order of its entries; an unreadable one has none. -/
def bindingsIn (tree : FileTree) (file : Path) : Catalog :=
  match contentAt tree file with
  | .entries entries => entries
  | _ => []

/-- The texts that the files of directories bind, in the order in which they are read. -/
def bindings (tree : FileTree) (directories : List Path) : List (String × String) :=
  (directories.flatMap (filesIn tree)).flatMap (bindingsIn tree)

/-- Directories that are not there bind nothing. -/
theorem bindings_of_nowhere {tree : FileTree} {directories : List Path}
    (nowhere : ∀ directory ∈ directories, tree.directoryAt? directory = none) :
    bindings tree directories = [] := by
  have empty : directories.flatMap (filesIn tree) = [] :=
    List.flatMap_eq_nil_iff.mpr fun directory inside =>
      filesIn_of_nowhere (nowhere directory inside)
  rw [bindings, empty, List.flatMap_nil]

/-- What a directory's files bind comes before what those of later directories bind. -/
theorem bindings_cons (tree : FileTree) (directory : Path) (rest : List Path) :
    bindings tree (directory :: rest) =
      (filesIn tree directory).flatMap (bindingsIn tree) ++ bindings tree rest := by
  -- The files of the first directory come before the others, and so does what they bind.
  rw [bindings, List.flatMap_cons, List.flatMap_append]
  rfl

/-- What directories bind stands in one of the files that are listed for them. -/
theorem mem_bindings_iff {tree : FileTree} {directories : List Path} {entry : String × String} :
    entry ∈ bindings tree directories ↔
      ∃ directory ∈ directories, ∃ file ∈ filesIn tree directory,
        entry ∈ bindingsIn tree file := by
  simp only [bindings, List.mem_flatMap]
  constructor
  · rintro ⟨file, ⟨directory, inside, listed⟩, bound⟩
    exact ⟨directory, inside, file, listed, bound⟩
  · rintro ⟨directory, inside, file, listed, bound⟩
    exact ⟨file, ⟨directory, inside, listed⟩, bound⟩

/-- The text that is bound to an id last. -/
def lastBound? (id : String) (bound : List (String × String)) : Option String :=
  bound.reverse.lookup id

/-- The text that is bound to an id last is bound to it. -/
theorem mem_of_lastBound? {id text : String} {bound : List (String × String)}
    (last : lastBound? id bound = some text) : (id, text) ∈ bound := by
  -- What is found from the end stands there, with other ids behind it.
  obtain ⟨before, behind, split, -⟩ := List.lookup_eq_some_iff.mp last
  rw [← List.mem_reverse, split]
  exact List.mem_append_right _ List.mem_cons_self

/-- Tells that each catalog file of a tree holds a table, if it can be read at all. -/
def HoldsTables (tree : FileTree) : Prop :=
  ∀ place bytes, isCatalogName place = true → tree.read? place = some bytes →
    Content.ofBytes bytes ≠ .notTable

/-- A tree holds tables if each of its files does, or cannot be read. -/
theorem holdsTables_of_entries {tree : FileTree}
    (each : ∀ path bytes, (path, some bytes) ∈ tree.entries → Content.ofBytes bytes ≠ .notTable) :
    HoldsTables tree := by
  -- What is read stands in an entry of its own.
  intro place bytes _ found
  obtain ⟨before, behind, split, -⟩ :=
    List.lookup_eq_some_iff.mp (Option.join_eq_some_iff.mp found)
  refine each place bytes ?_
  rw [split]
  exact List.mem_append_right _ List.mem_cons_self

/-- What the bytes of a text hold is what is read from the text. -/
theorem Content.ofBytes_toUTF8 (text : String) :
    Content.ofBytes text.toUTF8 =
      match Json.read? text with
      | some (.table fields) => .entries (fields.filterMap entryOf?)
      | some _ => .notTable
      | none => .unreadable := by
  have decoded : String.fromUTF8? text.toUTF8 = some text := by
    unfold String.fromUTF8?
    split
    · rfl
    · rename_i invalid
      -- The bytes of a text are always valid, so that they decode to it.
      exact absurd text.isValidUTF8 invalid
  rw [Content.ofBytes, decoded]
  rfl

/-- From a path that is short enough what is at its place is read. -/
theorem contentAt_of_fits (tree : FileTree) {file : Path} (fits : file.Fits) :
    contentAt tree file = .ofPath tree ((tree.locate? file).getD file) := by
  rw [contentAt, FileTree.refuses_of_fits tree fits, if_neg Bool.false_ne_true]

/-- At the place of a file with a text in it is what is read from the text. -/
theorem contentAt_of_text {tree : FileTree} {file : Path} {text : String} (fits : file.Fits)
    (written : tree.read? ((tree.locate? file).getD file) = some text.toUTF8) :
    contentAt tree file =
      match Json.read? text with
      | some (.table fields) => .entries (fields.filterMap entryOf?)
      | some _ => .notTable
      | none => .unreadable := by
  rw [contentAt_of_fits tree fits, Content.ofPath, written]
  exact Content.ofBytes_toUTF8 text

/-- A catalog made of bindings has the text under an id that is bound to it last. -/
theorem get?_ofEntries (id : String) (bound : List (String × String)) :
    Dictionary.get? id (Dictionary.ofEntries bound) = lastBound? id bound :=
  Dictionary.get?_ofEntries id bound

/-- Where each catalog file holds a table, none that is read turns out to hold something else. -/
theorem HoldsTables.content {tree : FileTree} (holds : HoldsTables tree) {file : Path}
    (named : isCatalogName file = true) : contentAt tree file ≠ .notTable := by
  -- The name of the file is that of the place as well, since it does not go back up.
  have placed : isCatalogName ((tree.locate? file).getD file) = true := by
    obtain ⟨last, ends, extended⟩ := (isCatalogName_iff file).mp named
    have down : last ≠ Path.up := by
      rintro rfl
      exact absurd extended (by decide +kernel)
    cases located : tree.locate? file with
    | none => exact named
    | some place =>
      exact (isCatalogName_iff place).mpr
        ⟨last, FileTree.getLast?_of_locate? ends down located, extended⟩
  unfold contentAt Content.ofPath
  -- From a path that is too long nothing is read, be it a table or not.
  split
  · exact Content.noConfusion
  · cases found : tree.read? ((tree.locate? file).getD file) with
    | none => exact Content.noConfusion
    | some bytes => exact holds _ bytes placed found

/-- Tells whether a file can be read, but holds something that is no table. -/
def holdsOther (tree : FileTree) (file : Path) : Bool :=
  match contentAt tree file with
  | .notTable => true
  | _ => false

/-- Tells whether a file cannot be read. -/
def isUnreadable (tree : FileTree) (file : Path) : Bool :=
  match contentAt tree file with
  | .unreadable => true
  | _ => false

/-- Reading files puts all that they bind, in turn, into the catalog, unless one is no table. -/
theorem loadFiles_result (tree : FileTree) (files : List Path) (catalog : Catalog) :
    (loadFiles tree files catalog).result =
      match files.find? (holdsOther tree) with
      | some file => .error (.notTable file)
      | none => .ok (catalog.update (files.flatMap (bindingsIn tree))) := by
  induction files generalizing catalog with
  | nil => rfl
  | cons file rest ih =>
    rw [loadFiles, List.find?_cons, List.flatMap_cons, Dictionary.update_append, holdsOther,
      bindingsIn]
    -- Only a file that holds something else ends it; one that cannot be read binds nothing.
    cases content : contentAt tree file with
    | entries entries => exact ih (catalog.update entries)
    | unreadable => exact ih catalog
    | notTable => rfl

/-- Files that are all read to the end are skipped where they cannot be read, and only there. -/
theorem loadFiles_skipped {tree : FileTree} {files : List Path}
    (tables : files.find? (holdsOther tree) = none) (catalog : Catalog) :
    (loadFiles tree files catalog).skipped = files.filter (isUnreadable tree) := by
  induction files generalizing catalog with
  | nil => rfl
  | cons file rest ih =>
    rw [List.find?_cons, holdsOther] at tables
    rw [loadFiles, List.filter_cons, isUnreadable]
    -- What is read or skipped goes on with the rest; what is no table would have ended it.
    cases content : contentAt tree file with
    | entries entries =>
      simp only [content] at tables ⊢
      exact ih tables (catalog.update entries)
    | unreadable =>
      simp only [content] at tables ⊢
      rw [ih tables catalog]
      rfl
    | notTable => simp [content] at tables

/-- Every file that is listed for a directory is named as catalog files are. -/
theorem isCatalogName_of_mem_filesIn {tree : FileTree} {directory file : Path}
    (inside : file ∈ filesIn tree directory) : isCatalogName file = true := by
  -- The name below the place is the end of the file's path.
  obtain ⟨place, name, -, rfl, -, last, ends, extended⟩ := (mem_filesIn_iff _ _ _).mp inside
  refine (isCatalogName_iff _).mpr ⟨last, ?_, extended⟩
  rw [List.getLast?_append, ends, Option.some_or]

/-- What ends reading a directory: that it or one below it is refused, or a file without a table. -/
def obstacleIn? (tree : FileTree) (directory : Path) : Option Error :=
  if tree.refusesBelow directory then some (.refused directory)
  else ((filesIn tree directory).find? (holdsOther tree)).map .notTable

/-- What ends reading directories in turn, if anything does. -/
def obstacle? (tree : FileTree) (directories : List Path) : Option Error :=
  directories.findSome? (obstacleIn? tree)

/-- Reading directories puts all that their files bind into the catalog, unless it is ended. -/
theorem loadDirectories_result (tree : FileTree) (directories : List Path) (catalog : Catalog) :
    (loadDirectories tree directories catalog).result =
      match obstacle? tree directories with
      | some error => .error error
      | none => .ok (catalog.update (bindings tree directories)) := by
  induction directories generalizing catalog with
  | nil => rfl
  | cons directory rest ih =>
    rw [loadDirectories, obstacle?, List.findSome?_cons, ← obstacle?, obstacleIn?]
    -- A refusal ends it at once; otherwise the files of the directory are read before the others.
    by_cases refused : tree.refusesBelow directory = true
    · simp only [refused, if_true]
    · have files := loadFiles_result tree (filesIn tree directory) catalog
      simp only [refused, Bool.false_eq_true, if_false]
      cases other : (filesIn tree directory).find? (holdsOther tree) with
      | some file =>
        rw [other] at files
        simp only [files, Option.map_some]
      | none =>
        rw [other] at files
        simp only [files, Option.map_none, ih]
        rw [bindings_cons, Dictionary.update_append]

/-- Directories that are read to the end skip the files that cannot be read, in order. -/
theorem loadDirectories_skipped {tree : FileTree} {directories : List Path}
    (passed : obstacle? tree directories = none) (catalog : Catalog) :
    (loadDirectories tree directories catalog).skipped =
      (directories.flatMap (filesIn tree)).filter (isUnreadable tree) := by
  induction directories generalizing catalog with
  | nil => rfl
  | cons directory rest ih =>
    obtain ⟨here, later⟩ : obstacleIn? tree directory = none ∧ obstacle? tree rest = none := by
      simpa [obstacle?] using passed
    rw [obstacleIn?] at here
    -- Since nothing ends it here, all files of the directory are read, and those behind them.
    by_cases refused : tree.refusesBelow directory = true
    · simp [refused] at here
    · have tables : (filesIn tree directory).find? (holdsOther tree) = none := by
        simpa [refused] using here
      have result := loadFiles_result tree (filesIn tree directory) catalog
      rw [tables] at result
      simp only [loadDirectories, refused, Bool.false_eq_true, if_false, result]
      rw [loadFiles_skipped tables, ih later, List.flatMap_cons, List.filter_append]

/-- What is no table ends reading directories only where it is a file of one of them. -/
theorem holdsOther_of_obstacle? {tree : FileTree} {directories : List Path} {file : Path}
    (met : obstacle? tree directories = some (.notTable file)) :
    ∃ directory ∈ directories, file ∈ filesIn tree directory ∧ holdsOther tree file = true := by
  -- The directory at which it ends is not refused, as the answer is a file.
  obtain ⟨directory, inside, here⟩ := List.exists_of_findSome?_eq_some met
  rw [obstacleIn?] at here
  split at here
  · simp at here
  · obtain ⟨other, found, same⟩ := Option.map_eq_some_iff.mp here
    cases same
    exact ⟨directory, inside, List.mem_of_find?_eq_some found, List.find?_some found⟩

/-- Directories that can all be gone through have no first one that cannot. -/
theorem find?_refusesBelow_of_unrefused {tree : FileTree} {directories : List Path}
    (unrefused : ∀ directory ∈ directories, tree.refusesBelow directory = false) :
    directories.find? tree.refusesBelow = none := by
  rw [List.find?_eq_none]
  intro directory inside
  rw [unrefused directory inside]
  exact Bool.false_ne_true

/-- Unless something is no table, nothing but a refusal ends reading directories. -/
theorem obstacle?_of_tables {tree : FileTree} {directories : List Path}
    (tables : ∀ file, obstacle? tree directories ≠ some (.notTable file)) :
    obstacle? tree directories = (directories.find? tree.refusesBelow).map .refused := by
  induction directories with
  | nil => rfl
  | cons directory rest ih =>
    rw [obstacle?, List.findSome?_cons, ← obstacle?, obstacleIn?] at tables ⊢
    rw [List.find?_cons]
    by_cases refused : tree.refusesBelow directory = true
    · simp only [refused, if_true, Option.map_some]
    · simp only [refused, Bool.false_eq_true, if_false] at tables ⊢
      -- The first file that is no table would be what ends the reading.
      cases other : (filesIn tree directory).find? (holdsOther tree) with
      | some file => exact absurd (by rw [other]; rfl) (tables file)
      | none =>
        rw [other, Option.map_none] at tables
        simp only [Option.map_none]
        exact ih tables

/-- Where each catalog file holds a table, none ends reading directories. -/
theorem HoldsTables.obstacle?_ne {tree : FileTree} (holds : HoldsTables tree)
    (directories : List Path) (file : Path) :
    obstacle? tree directories ≠ some (.notTable file) := by
  -- A file that is listed has the name of a catalog, so that it holds a table.
  intro met
  obtain ⟨directory, -, inside, other⟩ := holdsOther_of_obstacle? met
  have table := holds.content (isCatalogName_of_mem_filesIn inside)
  rw [holdsOther] at other
  split at other
  · exact table (by assumption)
  · exact Bool.false_ne_true other

end Titling.Catalog
