import Mathlib.Data.List.Induction
import Titling.Project.Settings
import Titling.Proofs.Files.Alike

/-!
Two walks upwards from a directory: one finds the project, the other one the file with its settings.

Both end, and both find the nearest directory that has what they look for. What the second one looks
for is one of the things that the first one looks for, so it never ends below it.
-/

namespace Titling.Path

/-- Above the root of the file system there is nothing. -/
theorem ancestors_nil : ancestors [] = [] := rfl

/-- What begins a path with one name more begins it without that name, or is the whole path. -/
theorem heads_concat (init : Path) (last : String) :
    heads (init ++ [last]) = heads init ++ [init ++ [last]] := by
  induction init with
  | nil => rfl
  | cons name rest ih => simp [heads, ih]

/-- Above a directory are itself and those above the directory that it lies in. -/
theorem ancestors_concat (init : Path) (last : String) :
    ancestors (init ++ [last]) = (init ++ [last]) :: ancestors init := by
  rw [ancestors, heads_concat, List.reverse_append]
  rfl

/-- A directory with a last name lies in the one without it. -/
theorem parent_concat (init : Path) (last : String) : parent (init ++ [last]) = init :=
  List.dropLast_concat

end Titling.Path

namespace Titling.Project

open Titling.Path

/--
A walk upwards, one directory a turn. It ends at the root of the file system, with nothing, or in
the first directory that has what is looked for. Without any turns left it has not ended.
-/
def walk (holds : Path → Bool) : (turns : Nat) → (here : Path) → Option (Option Path)
  | 0, _ => none
  | turns + 1, here =>
    if here.parent = here then some none
    else if holds here then some (some here)
    else walk holds turns here.parent

/-- Tells whether a directory has a settings file in it. -/
def holdsSettings (tree : FileTree) (directory : Path) : Bool :=
  tree.isFile (directory ++ [settingsFile])

/-- Tells that a directory is at a start or above it, and is not the root of the file system. -/
def IsAtOrAbove (start directory : Path) : Prop :=
  directory ≠ [] ∧ directory <+: start

/-- Tells that no other directory that has what is looked for is as near to a start as this one. -/
structure IsNearest (holds : Path → Bool) (start found : Path) : Prop where
  above : IsAtOrAbove start found
  has : holds found = true
  nearest : ∀ other, IsAtOrAbove start other → holds other = true → other <+: found

/-- Tells that no directory at a start or above it has what is looked for. -/
def NoneHolds (holds : Path → Bool) (start : Path) : Prop :=
  ∀ directory, IsAtOrAbove start directory → holds directory = false

section Walk

variable {holds : Path → Bool}

/-- A walk ends within a turn for each name and one more, and finds what a search upwards finds. -/
theorem walk_of_enough {turns : Nat} {start : Path} (enough : start.length < turns) :
    walk holds turns start = some (start.ancestors.find? holds) := by
  induction start using List.reverseRecOn generalizing turns with
  | nil =>
    obtain ⟨turns, rfl⟩ := Nat.exists_eq_add_one_of_ne_zero (Nat.ne_zero_of_lt enough)
    rfl
  | append_singleton init last ih =>
    obtain ⟨turns, rfl⟩ := Nat.exists_eq_add_one_of_ne_zero (Nat.ne_zero_of_lt enough)
    -- The directory has a name at least, so that the one above is another one.
    have moves : init ≠ init ++ [last] := by simp
    rw [List.length_append, List.length_singleton] at enough
    rw [walk, parent_concat, if_neg moves, ancestors_concat, List.find?_cons,
      ih (Nat.lt_of_succ_lt_succ enough)]
    cases holds (init ++ [last]) <;> rfl

/-- At or above a directory are itself and what is at or above the directory that it lies in. -/
theorem isAtOrAbove_concat_iff (init : Path) (last : String) (directory : Path) :
    IsAtOrAbove (init ++ [last]) directory ↔
      directory = init ++ [last] ∨ IsAtOrAbove init directory := by
  rw [IsAtOrAbove, List.prefix_concat_iff, IsAtOrAbove]
  constructor
  · -- What is above is the directory itself, or it begins what the last name is put to.
    rintro ⟨nonempty, whole | begins⟩
    · exact .inl whole
    · exact .inr ⟨nonempty, begins⟩
  · rintro (rfl | ⟨nonempty, begins⟩)
    · exact ⟨by simp, .inl rfl⟩
    · exact ⟨nonempty, .inr begins⟩

/-- A search upwards finds nothing exactly if no directory has what is looked for. -/
theorem find?_ancestors_eq_none_iff (start : Path) :
    start.ancestors.find? holds = none ↔ NoneHolds holds start := by
  rw [List.find?_eq_none]
  simp only [ancestors, List.mem_reverse, mem_heads_iff, Bool.not_eq_true]
  rfl

/-- A search upwards finds a directory exactly if it is the nearest one. -/
theorem find?_ancestors_eq_some_iff (start found : Path) :
    start.ancestors.find? holds = some found ↔ IsNearest holds start found := by
  -- Induct from the end, as the walk does: the directory itself is asked before those above it.
  induction start using List.reverseRecOn with
  | nil =>
    simp only [ancestors_nil, List.find?_nil, reduceCtorEq, false_iff]
    rintro ⟨⟨nonempty, begins⟩, -, -⟩
    exact nonempty (List.prefix_nil.mp begins)
  | append_singleton init last ih =>
    rw [ancestors_concat, List.find?_cons]
    cases here : holds (init ++ [last]) with
    | true =>
      -- The directory itself is nearer than every other one.
      rw [Option.some.injEq]
      constructor
      · rintro rfl
        exact ⟨⟨by simp, List.prefix_rfl⟩, here, fun other above _ => above.2⟩
      · rintro ⟨⟨-, begins⟩, -, nearest⟩
        have whole := nearest _ ⟨by simp, List.prefix_rfl⟩ here
        exact whole.eq_of_length_le begins.length_le
    | false =>
      have others : ∀ directory, IsAtOrAbove (init ++ [last]) directory → holds directory = true →
          IsAtOrAbove init directory := by
        intro directory above held
        rcases (isAtOrAbove_concat_iff init last directory).mp above with rfl | above
        · simp [here] at held
        · exact above
      rw [ih]
      constructor
      · -- A directory above that has it is the nearest one, as the last directory itself does not.
        rintro ⟨above, held, nearest⟩
        exact ⟨(isAtOrAbove_concat_iff _ _ _).mpr (.inr above), held,
          fun other beyond holding => nearest other (others other beyond holding) holding⟩
      · rintro ⟨above, held, nearest⟩
        exact ⟨others found above held, held, fun other beyond =>
          nearest other ((isAtOrAbove_concat_iff _ _ _).mpr (.inr beyond))⟩

/-- Of two things looked for, the one that comes with the other is never nearer. -/
theorem IsNearest.prefix_of_imp {wider : Path → Bool} {start found other : Path}
    (nearest : IsNearest wider start found) (narrow : IsNearest holds start other)
    (wide : ∀ directory, holds directory = true → wider directory = true) : other <+: found :=
  nearest.nearest other narrow.above (wide other narrow.has)

end Walk

section Start

variable {tree : FileTree} {start : Path}

/-- The settings file is in the directory where a walk to such a file ends. -/
theorem settingsPath?_eq (tree : FileTree) (start : Path) :
    settingsPath? tree start =
      (start.normalize.ancestors.find? (holdsSettings tree)).map (· ++ [settingsFile]) := by
  rw [settingsPath?, List.find?_map]
  rfl

/-- The root of a project is nearest to the start, or is the start if no directory is one. -/
theorem rootOf_cases (tree : FileTree) (start : Path) :
    IsNearest (isRoot tree) start.normalize (rootOf tree start) ∨
      NoneHolds (isRoot tree) start.normalize ∧ rootOf tree start = start.normalize := by
  rw [rootOf]
  -- The search upwards finds the nearest root, or there is none.
  cases found : start.normalize.ancestors.find? (isRoot tree) with
  | some root => exact .inl ((find?_ancestors_eq_some_iff _ _).mp found)
  | none => exact .inr ⟨(find?_ancestors_eq_none_iff _).mp found, rfl⟩

/-- A start that cannot be looked at has neither a root nor settings, for the same reason. -/
theorem failed_of_checkStart {error : SearchError} (failed : checkStart tree start = .error error) :
    findRoot tree start = .error error ∧ entriesAt tree start = .error (.search error) := by
  rw [findRoot, entriesAt, failed]
  exact ⟨rfl, rfl⟩

/-- The root for a start that can be looked at. -/
theorem findRoot_of_checkStart (passed : checkStart tree start = .ok ()) :
    findRoot tree start = .ok (rootOf tree start) := by
  rw [findRoot, passed]
  rfl

/-- The settings are read from the nearest file for them, and are the usual ones without any. -/
theorem entriesAt_cases (passed : checkStart tree start = .ok ()) :
    (∃ place bytes, IsNearest (holdsSettings tree) start.normalize place ∧
        tree.read? (place ++ [settingsFile]) = some bytes ∧
        entriesAt tree start = Entries.ofBytes bytes) ∨
      NoneHolds (holdsSettings tree) start.normalize ∧ entriesAt tree start = .ok {} := by
  rw [entriesAt, passed, settingsPath?_eq]
  -- The nearest settings file is one that can be read.
  cases found : start.normalize.ancestors.find? (holdsSettings tree) with
  | some place =>
    have nearest := (find?_ancestors_eq_some_iff _ _).mp found
    obtain ⟨bytes, read⟩ := Option.isSome_iff_exists.mp nearest.has
    refine .inl ⟨place, bytes, nearest, read, ?_⟩
    rw [Option.map_some, Option.bind_some, read]
    rfl
  | none => exact .inr ⟨(find?_ancestors_eq_none_iff _).mp found, rfl⟩

/-- A start can be looked at if nothing in it is too long, with the name of the file behind it. -/
theorem checkStart_of_fits (unbroken : start.isBroken = false)
    (fits : Path.Fits (start.normalize ++ [settingsFile])) : checkStart tree start = .ok () := by
  simp [checkStart, unbroken, FileTree.refuses_of_fits tree fits]

/-- A start is too long if a look-up of the settings file in it is refused. -/
theorem checkStart_of_refuses (unbroken : start.isBroken = false)
    (refused : tree.refuses (start.normalize ++ [settingsFile]) = true) :
    checkStart tree start = .error .overlongName := by
  simp [checkStart, unbroken, refused]

/-- The settings are never read from below the project root. -/
theorem prefix_rootOf {place : Path}
    (nearest : IsNearest (holdsSettings tree) start.normalize place) :
    place <+: rootOf tree start := by
  -- A directory with a settings file is the root of a project.
  have wide : ∀ directory, holdsSettings tree directory = true → isRoot tree directory = true := by
    intro directory held
    exact Bool.or_eq_true_iff.mpr (.inl held)
  -- The root that is found is nearer than the settings; without any root there are no settings.
  rcases rootOf_cases tree start with found | ⟨none, -⟩
  · exact found.prefix_of_imp nearest wide
  · exact absurd (wide place nearest.has) (by simp [none place nearest.above])

/-- The project root is at or above the start, unless it is the root of the file system. -/
theorem isAtOrAbove_rootOf (below : rootOf tree start ≠ []) :
    IsAtOrAbove start.normalize (rootOf tree start) := by
  rcases rootOf_cases tree start with found | ⟨-, same⟩
  · exact found.above
  · exact ⟨below, same ▸ List.prefix_rfl⟩

/--
The walk to the project and the walk to its settings, from any start in any tree.

Both end within a turn for each name of the start and one more. A start that cannot be looked at,
as it is too long with the name of the settings file behind it or has a name that no file can have,
fails in both in the same way. From every other one the first walk finds the nearest root of a
project, or else is back at the start, and the settings are those in the nearest file for them, or
else the usual ones. They are not read from below the project root, and they are read from there if
it has a file for them, unless it is the root of the file system itself.
-/
theorem walks_consistent (tree : FileTree) (start : Path) :
    (∀ turns, start.normalize.length < turns →
      ∃ root place, walk (isRoot tree) turns start.normalize = some root ∧
        walk (holdsSettings tree) turns start.normalize = some place ∧
        rootOf tree start = root.getD start.normalize ∧
        settingsPath? tree start = place.map (· ++ [settingsFile])) ∧
    (∀ error, checkStart tree start = .error error →
      findRoot tree start = .error error ∧ entriesAt tree start = .error (.search error)) ∧
    (checkStart tree start = .ok () →
      ∃ root, findRoot tree start = .ok root ∧
        (IsNearest (isRoot tree) start.normalize root ∨
          NoneHolds (isRoot tree) start.normalize ∧ root = start.normalize) ∧
        ((∃ place bytes, IsNearest (holdsSettings tree) start.normalize place ∧
            tree.read? (place ++ [settingsFile]) = some bytes ∧
            entriesAt tree start = Entries.ofBytes bytes ∧
            place <+: root ∧ (holdsSettings tree root = true → place = root)) ∨
          NoneHolds (holdsSettings tree) start.normalize ∧ entriesAt tree start = .ok {} ∧
            (holdsSettings tree root = true → root = []))) ∧
    (start.isBroken = false → Path.Fits (start.normalize ++ [settingsFile]) →
      checkStart tree start = .ok ()) := by
  refine ⟨fun turns enough => ?_, fun error => failed_of_checkStart, fun passed => ?_,
    checkStart_of_fits⟩
  · -- Each walk finds what the search upwards does, within the turns that it has.
    exact ⟨_, _, walk_of_enough enough, walk_of_enough enough, rfl, settingsPath?_eq tree start⟩
  · refine ⟨_, findRoot_of_checkStart passed, rootOf_cases tree start, ?_⟩
    rcases entriesAt_cases passed with ⟨place, bytes, nearest, read, given⟩ | ⟨none, given⟩
    · have begins := prefix_rootOf nearest
      refine .inl ⟨place, bytes, nearest, read, given, begins, fun held => ?_⟩
      -- The project root has a name, as the nearest directory with a settings file has.
      have below : rootOf tree start ≠ [] := fun top =>
        nearest.above.1 (List.prefix_nil.mp (top ▸ begins))
      have back := nearest.nearest _ (isAtOrAbove_rootOf below) held
      exact begins.eq_of_length_le back.length_le
    · -- The project root would have settings itself, if it had a name.
      refine .inr ⟨none, given, fun held => ?_⟩
      by_contra below
      exact absurd held (by simp [none _ (isAtOrAbove_rootOf below)])

/-- From below a nested project its history is nearer than the settings of the outer one. -/
example :
    let tree : FileTree := {
      entries := [(["site", "pyproject.toml"], some ByteArray.empty),
        (["site", "blog", ".git", "HEAD"], some ByteArray.empty)] }
    rootOf tree ["site", "blog", "posts"] = ["site", "blog"] ∧
      settingsPath? tree ["site", "blog", "posts"] = some ["site", "pyproject.toml"] := by
  decide

end Start

/-- A start whose only name has one byte more than a name may have. -/
def overlongStart : Path :=
  [nameOf (nameLimit + 1)]

/-- A start that has one byte too many for a settings file, while none of its names is too long. -/
def deepStart : Path :=
  List.replicate 15 (nameOf nameLimit) ++ [nameOf 240]

/-- A tree with just this start in it, as a directory without files. -/
def deepTree : FileTree where
  entries := [(deepStart, none)]

/-- A tree with just a settings file in it, which lies in the root of the file system. -/
def topTree : FileTree where
  entries := [([settingsFile], some ByteArray.empty)]

/-- The start that is too long cannot be looked at. -/
theorem checkStart_overlongStart : checkStart {} overlongStart = .error .overlongName := by
  -- Neither of the names has the character that breaks one.
  have whole : ∀ name ∈ overlongStart ++ [settingsFile], terminator ∉ name.toList :=
    List.forall_mem_cons.mpr ⟨not_mem_nameOf _, by decide⟩
  refine checkStart_of_refuses
    (isBroken_of_whole fun name inside => whole name (List.mem_append_left _ inside)) ?_
  rw [normalize_of_down (by decide +kernel)]
  exact FileTree.refuses_of_overlong {} (isBroken_of_whole whole) (by decide +kernel)

/-- The deep start cannot be looked at either, for the name of the settings file behind it. -/
theorem checkStart_deepStart : checkStart deepTree deepStart = .error .overlongName := by
  -- The names are ordinary ones; only all of them together are too long.
  have whole : ∀ name ∈ deepStart ++ [settingsFile], terminator ∉ name.toList := by
    intro name inside
    simp only [deepStart, List.mem_append, List.mem_replicate, List.mem_singleton] at inside
    rcases inside with (⟨-, rfl⟩ | rfl) | rfl
    · exact not_mem_nameOf _
    · exact not_mem_nameOf _
    · decide
  refine checkStart_of_refuses
    (isBroken_of_whole fun name inside => whole name (List.mem_append_left _ inside)) ?_
  rw [normalize_of_down (by decide +kernel)]
  exact FileTree.refuses_of_overlong_text _ (isBroken_of_whole whole) (by decide +kernel)

/--
The walks do not go up from everywhere, and do not agree at the root of the file system.

Where no directory has what is looked for, a start that is too long is not its own project root and
does not have the usual settings, be it missing or there and too long by one byte. And the root of
the file system is its own project root, but its settings are not read.
-/
theorem walks_not_from_everywhere :
    (NoneHolds (isRoot {}) overlongStart ∧
      findRoot {} overlongStart = .error .overlongName ∧
      entriesAt {} overlongStart = .error (.search .overlongName)) ∧
    ((deepStart ++ [settingsFile]).text.utf8ByteSize = textLimit ∧
      deepTree.isDirectory deepStart = true ∧ NoneHolds (isRoot deepTree) deepStart ∧
      findRoot deepTree deepStart = .error .overlongName ∧
      entriesAt deepTree deepStart = .error (.search .overlongName)) ∧
    (holdsSettings topTree [] = true ∧ findRoot topTree [] = .ok [] ∧
      entriesAt topTree [] = .ok {}) := by
  have top : checkStart topTree [] = .ok () :=
    checkStart_of_fits rfl ⟨by decide, by decide⟩
  refine ⟨⟨?_, failed_of_checkStart checkStart_overlongStart⟩,
    ⟨by decide +kernel, ?_, ?_, failed_of_checkStart checkStart_deepStart⟩,
    ⟨by decide, findRoot_of_checkStart top, ?_⟩⟩
  · exact (find?_ancestors_eq_none_iff _).mp (by decide)
  · simp [deepTree, FileTree.isDirectory, FileTree.impliesDirectory]
  · exact (find?_ancestors_eq_none_iff _).mp (by decide +kernel)
  · -- No directory is at or above the root of the file system, which itself does not count.
    rcases entriesAt_cases top with ⟨place, -, nearest, -⟩ | ⟨-, given⟩
    · exact absurd (List.prefix_nil.mp nearest.above.2) nearest.above.1
    · exact given

end Titling.Project
