import Mathlib.Data.List.Induction
import Titling.Proofs.Files.Tree

/-!
Trees that are the same at a directory, as far as it can be seen from outside.

What a path leads to, and whether it is refused, depends on nothing but the directories of a tree;
what stands in a directory depends on nothing but the directories and files below it.
-/

namespace Titling.FileTree

/-- A directory is the root, or has an entry of its own as such, or has something below it. -/
theorem isDirectory_iff (tree : FileTree) (path : Path) :
    tree.isDirectory path = true ↔
      path = [] ∨ ∃ entry ∈ tree.entries, path <+: entry.1 ∧ (entry.1 ≠ path ∨ entry.2 = none) := by
  rw [isDirectory, Bool.or_eq_true, List.isEmpty_iff, List.any_eq_true]
  simp only [impliesDirectory, Bool.and_eq_true, List.isPrefixOf_iff_prefix, Bool.or_eq_true,
    bne_iff_ne, Option.isNone_iff_eq_none]

/-- Where something stands at a path or below it, there is a directory or a file, and only there. -/
theorem exists_entry_iff {tree : FileTree} {path : Path} (nonempty : path ≠ []) :
    (∃ entry ∈ tree.entries, path <+: entry.1) ↔
      tree.isDirectory path = true ∨ tree.isFile path = true := by
  rw [isDirectory_iff]
  constructor
  · -- What goes on behind the path makes it a directory; otherwise the entry is that of the path.
    rintro ⟨entry, inside, begins⟩
    by_cases same : entry.1 = path
    · -- The first entry of the path says whether it is a file.
      have listed : (tree.entries.lookup path).isSome = true := by
        rw [List.lookup_isSome_iff]
        exact ⟨entry, inside, by simp [same]⟩
      obtain ⟨content, found⟩ := Option.isSome_iff_exists.mp listed
      obtain ⟨before, behind, split, -⟩ := List.lookup_eq_some_iff.mp found
      cases content with
      | none =>
        refine .inl (.inr ⟨(path, none), ?_, List.prefix_refl path, .inr rfl⟩)
        rw [split]
        exact List.mem_append_right _ List.mem_cons_self
      | some bytes =>
        refine .inr ?_
        rw [isFile, read?, found]
        rfl
    · exact .inl (.inr ⟨entry, inside, begins, .inl same⟩)
  · rintro ((root | ⟨entry, inside, begins, -⟩) | file)
    · exact absurd root nonempty
    · exact ⟨entry, inside, begins⟩
    · -- What is read of a file stands in an entry of its own path.
      obtain ⟨bytes, found⟩ := Option.isSome_iff_exists.mp file
      obtain ⟨before, behind, split, -⟩ :=
        List.lookup_eq_some_iff.mp (Option.join_eq_some_iff.mp found)
      refine ⟨(path, some bytes), ?_, List.prefix_refl path⟩
      rw [split]
      exact List.mem_append_right _ List.mem_cons_self

/-- Below a directory are the directories and files there, under their names from it on. -/
theorem mem_below_iff_exists (tree : FileTree) (directory name : Path) :
    name ∈ tree.below directory ↔
      name ≠ [] ∧ (tree.isDirectory (directory ++ name) = true ∨
        tree.isFile (directory ++ name) = true) := by
  rw [mem_below_iff]
  refine and_congr_right fun nonempty => exists_entry_iff ?_
  -- With a name behind it a path is not the root.
  intro empty
  exact nonempty (List.append_eq_nil_iff.mp empty).2

/-- Tells that no name in a tree goes up, as nothing in a file system is called so. -/
def IsPlain (tree : FileTree) : Prop :=
  ∀ entry ∈ tree.entries, Path.up ∉ entry.1

/-- In a plain tree no name below a directory goes up. -/
theorem IsPlain.of_mem_below {tree : FileTree} (plain : tree.IsPlain) {directory name : Path}
    (inside : name ∈ tree.below directory) : Path.up ∉ name := by
  obtain ⟨-, entry, listed, begins⟩ := (mem_below_iff tree directory name).mp inside
  -- The name is part of the path of an entry, and none of these goes up.
  intro goes
  exact plain entry listed (begins.subset (List.mem_append_right directory goes))

/-- From a directory on a path leads to what stands below it under this name. -/
theorem locate?_of_mem_below {tree : FileTree} {directory place name : Path}
    (located : tree.locate? directory = some place) (inside : name ∈ tree.below place)
    (down : Path.up ∉ name) : tree.locate? (directory ++ name) = some (place ++ name) := by
  -- Induct over the names from the directory on: at each of them one stands in a directory.
  induction name generalizing directory place with
  | nil => simpa using located
  | cons first rest ih =>
    -- One name further the path leads as it does in the directory, since there is one.
    have there : tree.isDirectory place = true := isDirectory_of_mem_below inside
    have apart : first ≠ Path.up := fun same => down (same ▸ List.mem_cons_self)
    have further : tree.locate? (directory ++ [first]) = some (place ++ [first]) := by
      rw [locate?_concat, located, descend_of_isDirectory there, Path.step, if_neg apart]
    cases rest with
    | nil => exact further
    | cons second others =>
      have below : second :: others ∈ tree.below (place ++ [first]) := by
        obtain ⟨-, entry, listed, begins⟩ := (mem_below_iff _ _ _).mp inside
        refine (mem_below_iff _ _ _).mpr ⟨List.cons_ne_nil _ _, entry, listed, ?_⟩
        simpa using begins
      have later := ih further below fun goes => down (List.mem_cons_of_mem first goes)
      simpa using later

/-- Two trees with the same directories lead a path to the same place. -/
theorem locate?_congr {first second : FileTree}
    (same : ∀ path, first.isDirectory path = second.isDirectory path) (path : Path) :
    first.locate? path = second.locate? path := by
  -- A step asks for nothing but directories.
  have steps : first.descend = second.descend := by
    funext here name
    simp only [descend, same]
  rw [locate?, steps, locate?]

/-- Two trees with the same directories refuse the same names. -/
theorem refusesFrom_congr {first second : FileTree}
    (same : ∀ path, first.isDirectory path = second.isDirectory path) (here names : Path) :
    first.refusesFrom here names = second.refusesFrom here names := by
  -- Each name is refused by its length, if there is a directory to be asked.
  induction names generalizing here with
  | nil => rfl
  | cons name rest ih => simp only [refusesFrom, same, ih]

/-- Two trees with the same directories refuse the same paths. -/
theorem refuses_congr {first second : FileTree}
    (same : ∀ path, first.isDirectory path = second.isDirectory path) (path : Path) :
    first.refuses path = second.refuses path := by
  rw [refuses, refuses, refusesFrom_congr same]

/-- A path with names that are short enough is not refused for one of them. -/
theorem refusesFrom_of_short (tree : FileTree) (here : Path) {names : Path}
    (short : ∀ name ∈ names, name.utf8ByteSize ≤ Path.nameLimit) :
    tree.refusesFrom here names = false := by
  -- Each name on the way is short enough, wherever it is asked for.
  induction names generalizing here with
  | nil => rfl
  | cons name rest ih =>
    have bound : ¬ Path.nameLimit < name.utf8ByteSize :=
      Nat.not_lt.mpr (short name List.mem_cons_self)
    have others := ih (here.step name) fun other inside =>
      short other (List.mem_cons_of_mem name inside)
    simp [refusesFrom, bound, others]

/-- A path that is short enough is not refused. -/
theorem refuses_of_fits (tree : FileTree) {path : Path} (fits : path.Fits) :
    tree.refuses path = false := by
  have short : ¬ Path.textLimit ≤ path.text.utf8ByteSize := Nat.not_le.mpr fits.text
  simp [refuses, short, refusesFrom_of_short tree [] fits.names]

/-- A path of which no name goes up leads to where its names say, if it leads anywhere. -/
theorem eq_of_locate? {tree : FileTree} {path place : Path} (down : Path.up ∉ path)
    (located : tree.locate? path = some place) : place = path := by
  induction path using List.reverseRecOn generalizing place with
  | nil => simpa [locate?] using located.symm
  | append_singleton init last ih =>
    rw [locate?_concat] at located
    obtain ⟨here, leads, rfl⟩ := Option.map_eq_some_iff.mp located
    have apart : last ≠ Path.up := fun same => down (by simp [same])
    -- Before the last name the path has led to where its names say.
    rw [ih (fun goes => down (List.mem_append_left _ goes)) (Option.filter_eq_some_iff.mp leads).1,
      Path.step, if_neg apart]

/-- What a directory begins with is a directory as well. -/
theorem isDirectory_of_prefix {tree : FileTree} {head path : Path} (begins : head <+: path)
    (there : tree.isDirectory path = true) : tree.isDirectory head = true := by
  by_cases same : head = path
  · -- A shorter path is a directory as something lies below it.
    rw [same, there]
  · rcases (isDirectory_iff tree path).mp there with rfl | ⟨entry, inside, goes, -⟩
    · exact absurd (List.prefix_nil.mp begins) same
    · refine (isDirectory_iff tree head).mpr (.inr ⟨entry, inside, begins.trans goes, .inl ?_⟩)
      -- Were the entry at the shorter path, the longer one could not begin it.
      rintro rfl
      exact same (begins.eq_of_length (Nat.le_antisymm begins.length_le goes.length_le))

/-- A directory is where a path leads that names it without going up. -/
theorem locate?_of_isDirectory {tree : FileTree} {path : Path} (down : Path.up ∉ path)
    (there : tree.isDirectory path = true) : tree.locate? path = some path := by
  induction path using List.reverseRecOn with
  | nil => rfl
  | append_singleton init last ih =>
    -- Where the last name is a directory, those before it are directories as well.
    have above : tree.isDirectory init = true :=
      isDirectory_of_prefix (List.prefix_append init [last]) there
    have apart : last ≠ Path.up := fun same => down (by simp [same])
    rw [locate?_concat, ih (fun goes => down (List.mem_append_left _ goes)) above,
      descend_of_isDirectory above, Path.step, if_neg apart]

/-- Two trees with the same directories have a path lead to the same one. -/
theorem directoryAt?_congr {first second : FileTree}
    (same : ∀ path, first.isDirectory path = second.isDirectory path) (path : Path) :
    first.directoryAt? path = second.directoryAt? path := by
  simp only [directoryAt?, locate?_congr same, same]

/-- A path of which no name goes up leads to the directory that it names, if there is one. -/
theorem directoryAt?_of_down (tree : FileTree) {path : Path} (down : Path.up ∉ path) :
    tree.directoryAt? path = if tree.isDirectory path then some path else none := by
  by_cases there : tree.isDirectory path = true
  · rw [directoryAt?, locate?_of_isDirectory down there, if_pos there, Option.filter_some,
      if_pos there]
  · rw [if_neg there, directoryAt?, Option.filter_eq_none_iff]
    -- Where the path leads is no directory, since the path leads to nothing but itself.
    intro place located
    rwa [eq_of_locate? down located]

/-- A directory cannot be gone through if it is refused, or a directory below it is. -/
theorem refusesBelow_iff (tree : FileTree) (path : Path) :
    tree.refusesBelow path = true ↔
      tree.refuses path = true ∨ ∃ place name, tree.directoryAt? path = some place ∧
        name ≠ [] ∧ tree.isDirectory (place ++ name) = true ∧
          tree.refuses (path ++ name) = true := by
  rw [refusesBelow, Bool.or_eq_true]
  refine or_congr_right ?_
  cases tree.directoryAt? path with
  | none => simp
  | some place =>
    simp only [List.any_eq_true, Bool.and_eq_true, mem_below_iff_exists, Option.some.injEq]
    constructor
    · -- What can be refused below is a directory; that it is listed says no more.
      rintro ⟨name, ⟨nonempty, -⟩, there, refused⟩
      exact ⟨place, name, rfl, nonempty, there, refused⟩
    · -- A directory stands below, and is listed for that.
      rintro ⟨_, name, rfl, nonempty, there, refused⟩
      exact ⟨name, ⟨nonempty, .inl there⟩, there, refused⟩

/-- An ordinary directory can be gone through in a tree in which every path is short enough. -/
theorem refusesBelow_of_fits {tree : FileTree} {path : Path} (fits : path.Fits)
    (down : Path.up ∉ path) (each : ∀ entry ∈ tree.entries, entry.1.Fits) :
    tree.refusesBelow path = false := by
  rw [Bool.eq_false_iff]
  intro refused
  rcases (refusesBelow_iff tree path).mp refused with here | ⟨place, name, found, -, there, below⟩
  · simp [refuses_of_fits tree fits] at here
  · have same : place = path := eq_of_locate? down (Option.filter_eq_some_iff.mp found).1
    rw [same] at there
    -- A directory below begins the path of an entry, unless it is the root of the file system.
    rcases (isDirectory_iff tree _).mp there with top | ⟨entry, inside, begins, -⟩
    · have root : Path.Fits [] := by decide
      simp [top, refuses_of_fits tree root] at below
    · have short : Path.Fits (path ++ name) := Path.Fits.of_prefix (each entry inside) begins
      simp [refuses_of_fits tree short] at below

/-- A directory that is itself refused cannot be gone through. -/
theorem refusesBelow_of_refuses {tree : FileTree} {path : Path}
    (refused : tree.refuses path = true) : tree.refusesBelow path = true :=
  (refusesBelow_iff tree path).mpr (.inl refused)

/-- In two trees with the same directories the same ones can be gone through. -/
theorem refusesBelow_congr {first second : FileTree}
    (same : ∀ path, first.isDirectory path = second.isDirectory path) (path : Path) :
    first.refusesBelow path = second.refusesBelow path := by
  rw [Bool.eq_iff_iff, refusesBelow_iff, refusesBelow_iff]
  simp only [refuses_congr same, directoryAt?_congr same, same]

/-- A path from which the names go on without going up leads to the place under these names. -/
theorem eq_append_of_locate? {tree : FileTree} {directory place name other : Path}
    (located : tree.locate? directory = some place) (down : Path.up ∉ name)
    (further : tree.locate? (directory ++ name) = some other) : other = place ++ name := by
  induction name using List.reverseRecOn generalizing other with
  | nil =>
    rw [List.append_nil, located] at further
    rw [List.append_nil, Option.some.inj further]
  | append_singleton init last ih =>
    rw [← List.append_assoc, locate?_concat] at further
    -- The path to the last name has a place, from which that name is one step further.
    obtain ⟨here, leads, rfl⟩ := Option.map_eq_some_iff.mp further
    have apart : last ≠ Path.up := fun same => down (by simp [same])
    -- Before the last name the path has led to where the names before it say.
    rw [ih (fun goes => down (List.mem_append_left _ goes)) (Option.filter_eq_some_iff.mp leads).1,
      Path.step, if_neg apart, List.append_assoc]

/-- Tells that a directory looks the same in two trees: where it is found, and what stands in it. -/
structure SeenAlike (first second : FileTree) (directory : Path) : Prop where
  refused : first.refuses directory = second.refuses directory
  found : first.directoryAt? directory = second.directoryAt? directory
  opened : ∀ place, first.directoryAt? directory = some place → ∀ name, Path.up ∉ name →
    first.refuses (directory ++ name) = second.refuses (directory ++ name)
  directories : ∀ place, first.directoryAt? directory = some place → ∀ name,
    first.isDirectory (place ++ name) = second.isDirectory (place ++ name)
  files : ∀ place, first.directoryAt? directory = some place → ∀ name,
    first.read? (place ++ name) = second.read? (place ++ name)

/-- Tells that from one tree to another no directory comes or goes that a path passes through. -/
def SameWay (first second : FileTree) (path : Path) : Prop :=
  ∀ head, head <+: path → ∀ place, first.locate? head = some place →
    first.isDirectory place = second.isDirectory place

/-- What a path passes through is passed through by a path that goes on from it. -/
theorem SameWay.of_prefix {first second : FileTree} {head path : Path}
    (way : first.SameWay second path) (begins : head <+: path) : first.SameWay second head :=
  fun other inside => way other (inside.trans begins)

/-- A path leads to the same place if no directory comes or goes that it passes through. -/
theorem SameWay.locate?_eq {first second : FileTree} {path : Path}
    (way : first.SameWay second path) : first.locate? path = second.locate? path := by
  -- Induct from the end: the last step is taken from a place that is the same in both trees.
  induction path using List.reverseRecOn with
  | nil => rfl
  | append_singleton init last ih =>
    have begins : init <+: init ++ [last] := List.prefix_append init [last]
    have before : first.locate? init = second.locate? init := ih (way.of_prefix begins)
    rw [locate?_concat, locate?_concat, ← before]
    cases located : first.locate? init with
    | none => rfl
    | some place =>
      have same := way init begins place located
      simp [descend, Option.filter_some, same]

/-- From a place on the way the same names are refused if no directory comes or goes on it. -/
theorem SameWay.refusesFrom_eq {first second : FileTree} {head names : Path}
    (way : first.SameWay second (head ++ names)) {here : Path}
    (located : first.locate? head = some here) :
    first.refusesFrom here names = second.refusesFrom here names := by
  -- Induct over the names that are left: at each of them the way has come to the place asked.
  induction names generalizing head here with
  | nil => rfl
  | cons name rest ih =>
    have same := way head (List.prefix_append head _) here located
    rw [refusesFrom, refusesFrom, ← same]
    -- Without a directory the way ends here, and with one it goes on to the next name.
    cases there : first.isDirectory here with
    | false => rfl
    | true =>
      have further : first.locate? (head ++ [name]) = some (here.step name) := by
        rw [locate?_concat, located, descend_of_isDirectory there]
      have later : first.SameWay second ((head ++ [name]) ++ rest) := by
        rwa [List.append_assoc]
      rw [ih later further]

/-- A path is refused alike if no directory comes or goes that it passes through. -/
theorem SameWay.refuses_eq {first second : FileTree} {path : Path}
    (way : first.SameWay second path) : first.refuses path = second.refuses path := by
  -- A look-up sets out from the root, which is always there.
  have start : first.locate? [] = some [] := rfl
  rw [refuses, refuses, SameWay.refusesFrom_eq way start]

/-- Where nothing changes in a directory, the way to it goes on unchanged to what stands in it. -/
theorem SameWay.append {first second : FileTree} {directory place name : Path}
    (way : first.SameWay second directory) (located : first.locate? directory = some place)
    (down : Path.up ∉ name)
    (inside : ∀ below, first.isDirectory (place ++ below) = second.isDirectory (place ++ below)) :
    first.SameWay second (directory ++ name) := by
  intro head begins other reached
  -- The way is still that to the directory, or it has come to a place inside.
  rcases List.prefix_or_prefix_of_prefix begins (List.prefix_append directory name) with
    before | ⟨rest, rfl⟩
  · exact way head before other reached
  · have part : rest <+: name := (List.prefix_append_right_inj directory).mp begins
    rw [eq_append_of_locate? located (fun goes => down (part.subset goes)) reached]
    exact inside rest

/-- A directory is seen alike if nothing changes on the way to it nor in it. -/
theorem SeenAlike.of_way {first second : FileTree} {directory : Path}
    (way : first.SameWay second directory)
    (inside : ∀ place, first.locate? directory = some place → ∀ name,
      first.isDirectory (place ++ name) = second.isDirectory (place ++ name) ∧
        first.read? (place ++ name) = second.read? (place ++ name)) :
    first.SeenAlike second directory where
  refused := way.refuses_eq
  found := by
    -- The place is the same, and the path passes through it at the end.
    rw [directoryAt?, directoryAt?, ← way.locate?_eq]
    cases located : first.locate? directory with
    | none => rfl
    | some place =>
      have same := way directory (List.prefix_refl directory) place located
      simp only [Option.filter_some, same]
  opened := by
    intro place found name down
    -- The way goes on from the directory to what is in it, so that the whole of it stays.
    have located := (Option.filter_eq_some_iff.mp found).1
    exact (way.append located down fun below => (inside place located below).1).refuses_eq
  directories := fun place found name =>
    (inside place (Option.filter_eq_some_iff.mp found).1 name).1
  files := fun place found name => (inside place (Option.filter_eq_some_iff.mp found).1 name).2

/-- From one tree to another in which a directory stays there, the way to it stays the same. -/
theorem SameWay.of_isDirectory {first second : FileTree} {directory : Path}
    (down : Path.up ∉ directory) (there : first.isDirectory directory = true)
    (still : second.isDirectory directory = true) : first.SameWay second directory := by
  intro head begins place located
  -- All that a directory lies in is a directory, in one tree as in the other.
  rw [eq_of_locate? (fun goes => down (begins.subset goes)) located,
    isDirectory_of_prefix begins there, isDirectory_of_prefix begins still]

/-- An ordinary directory is seen alike unless something changes in it, or the directory itself. -/
theorem SeenAlike.of_below {first second : FileTree} {directory : Path}
    (fits : directory.Fits) (down : Path.up ∉ directory)
    (inside : ∀ name,
      first.isDirectory (directory ++ name) = second.isDirectory (directory ++ name) ∧
        first.read? (directory ++ name) = second.read? (directory ++ name)) :
    first.SeenAlike second directory := by
  -- The directory is in itself, under no name.
  have root : first.isDirectory directory = second.isDirectory directory := by
    simpa using (inside []).1
  by_cases there : first.isDirectory directory = true
  · refine .of_way (.of_isDirectory down there (root ▸ there)) fun place located => ?_
    rw [eq_of_locate? down located]
    exact inside
  · -- Where it is not there, it is found in neither tree, and nothing else is asked.
    have absent : first.directoryAt? directory = none := by
      rw [directoryAt?_of_down first down, if_neg there]
    have missing : second.directoryAt? directory = none := by
      rw [directoryAt?_of_down second down, if_neg (root ▸ there)]
    constructor
    · rw [refuses_of_fits first fits, refuses_of_fits second fits]
    · rw [absent, missing]
    all_goals
      intro place found
      rw [absent] at found
      cases found

/-- In a directory that is seen alike the same things stand, under the same names. -/
theorem SeenAlike.mem_below_iff {first second : FileTree} {directory place : Path}
    (alike : first.SeenAlike second directory)
    (found : first.directoryAt? directory = some place) (name : Path) :
    name ∈ first.below place ↔ name ∈ second.below place := by
  rw [mem_below_iff_exists, mem_below_iff_exists, isFile, isFile, alike.directories place found,
    alike.files place found]

/-- A directory of a plain tree that is seen alike can be gone through in both trees or neither. -/
theorem SeenAlike.refusesBelow_eq {first second : FileTree} (plain : first.IsPlain)
    {directory : Path} (alike : first.SeenAlike second directory) :
    first.refusesBelow directory = second.refusesBelow directory := by
  -- The place that the path leads to is the same in both trees, and so are the names below it.
  rw [Bool.eq_iff_iff, refusesBelow_iff, refusesBelow_iff, ← alike.refused, ← alike.found]
  refine or_congr_right (exists_congr fun place => exists_congr fun name =>
    and_congr_right fun found => and_congr_right fun nonempty => ?_)
  rw [← alike.directories place found]
  refine and_congr_right fun there => ?_
  -- What is there stands below the directory, so that its names do not go up.
  have below := (mem_below_iff_exists first place name).mpr ⟨nonempty, .inl there⟩
  rw [alike.opened place found name (plain.of_mem_below below)]

/--
Tells that nothing in a directory changes from one tree to another, nor where it is found.

A directory that lies outside may come or go if the path is an ordinary one. A path that goes up, or
is long enough to be refused, may depend on every directory that it passes through.
-/
inductive Unchanged (first second : FileTree) (directory : Path) : Prop where
  | ofOrdinary (fits : directory.Fits) (down : Path.up ∉ directory)
      (inside : ∀ name,
        first.isDirectory (directory ++ name) = second.isDirectory (directory ++ name) ∧
          first.read? (directory ++ name) = second.read? (directory ++ name))
  | ofWay (way : first.SameWay second directory)
      (inside : ∀ place, first.locate? directory = some place → ∀ name,
        first.isDirectory (place ++ name) = second.isDirectory (place ++ name) ∧
          first.read? (place ++ name) = second.read? (place ++ name))

/-- A directory in which nothing changes is seen alike. -/
theorem Unchanged.seenAlike {first second : FileTree} {directory : Path}
    (unchanged : first.Unchanged second directory) : first.SeenAlike second directory := by
  -- Both ways to change nothing lead to the same view of the directory.
  cases unchanged with
  | ofOrdinary fits down inside => exact .of_below fits down inside
  | ofWay way inside => exact .of_way way inside

/-- No path below a directory is one that lies outside. -/
theorem append_ne_of_outside {directory path : Path} (outside : ¬ directory <+: path)
    (name : Path) : path ≠ directory ++ name := by
  rintro rfl
  exact outside (List.prefix_append directory name)

/-- Writing outside a directory makes nothing a directory in it, and takes none away. -/
theorem isDirectory_write_of_outside (tree : FileTree) {directory path : Path}
    (outside : ¬ directory <+: path) (content : Option ByteArray) (name : Path) :
    (tree.write path content).isDirectory (directory ++ name) =
      tree.isDirectory (directory ++ name) := by
  rw [Bool.eq_iff_iff, isDirectory_iff, isDirectory_iff]
  simp only [write, List.mem_append, List.mem_filter, List.mem_singleton]
  constructor
  · -- An entry in the directory is an old one, as the new one lies outside.
    rintro (root | ⟨entry, ⟨listed, -⟩ | rfl, begins, implies⟩)
    · exact .inl root
    · exact .inr ⟨entry, listed, begins, implies⟩
    · exact absurd ((List.prefix_append directory name).trans begins) outside
  · rintro (root | ⟨entry, listed, begins, implies⟩)
    · exact .inl root
    · -- What stood at the path before was not in the directory either.
      have apart : entry.1 ≠ path := by
        rintro rfl
        exact outside ((List.prefix_append directory name).trans begins)
      exact .inr ⟨entry, .inl ⟨listed, by simpa using apart⟩, begins, implies⟩

/-- Writing outside a directory changes no file in it. -/
theorem read?_write_of_outside (tree : FileTree) {directory path : Path}
    (outside : ¬ directory <+: path) (content : Option ByteArray) (name : Path) :
    (tree.write path content).read? (directory ++ name) = tree.read? (directory ++ name) := by
  have apart : (directory ++ name == path) = false :=
    beq_false_of_ne (append_ne_of_outside outside name).symm
  rw [read?, read?, write, List.lookup_append, List.lookup_cons, apart, List.lookup_nil,
    Option.or_none]
  congr 1
  -- Only entries of the path are dropped, and no look-up below the directory asks for these.
  induction tree.entries with
  | nil => rfl
  | cons entry rest ih =>
    obtain ⟨place, held⟩ := entry
    by_cases same : place = path
    · subst same
      simpa [List.lookup_cons, apart] using ih
    · simp [same, List.lookup_cons, ih]

end Titling.FileTree
