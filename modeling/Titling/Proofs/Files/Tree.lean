import Titling.Files.Tree
import Titling.Proofs.Files.Path

/-! What lies below a directory, and where a path leads whose last name goes down. -/

namespace Titling.FileTree

/-- A list is without repetitions when they have been taken out. -/
theorem nodup_eraseDups {α : Type} [BEq α] [LawfulBEq α] (items : List α) :
    items.eraseDups.Nodup := by
  -- The items that are left behind the first one are fewer, but they are no part of the list.
  induction size : items.length using Nat.strong_induction_on generalizing items with
  | _ size ih =>
    cases items with
    | nil => simp
    | cons item rest =>
      rw [List.eraseDups_cons, List.nodup_cons]
      refine ⟨?_, ih _ ?_ _ rfl⟩
      · -- The first item is taken out of what is left behind it.
        simp [List.mem_eraseDups]
      · rw [← size]
        exact Nat.lt_succ_of_le (List.length_filter_le _ _)

/-- A path lies below a directory under those names that come behind the directory's. -/
theorem below?_eq_some_iff (directory path names : Path) :
    directory.below? path = some names ↔ path = directory ++ names := by
  unfold Path.below?
  -- What is left of the path behind the directory is the names, if the directory begins it.
  split
  · rename_i begins
    obtain ⟨rest, rfl⟩ := List.isPrefixOf_iff_prefix.mp begins
    rw [List.drop_left, Option.some.injEq, List.append_cancel_left_eq]
  · rename_i apart
    simp only [reduceCtorEq, false_iff]
    rintro rfl
    exact apart (List.isPrefixOf_iff_prefix.mpr (List.prefix_append _ _))

/-- Below a directory are all the names that an entry goes through behind it. -/
theorem mem_below_iff (tree : FileTree) (directory name : Path) :
    name ∈ tree.below directory ↔
      name ≠ [] ∧ ∃ entry ∈ tree.entries, directory ++ name <+: entry.1 := by
  unfold below
  rw [List.mem_eraseDups, List.mem_flatMap]
  constructor
  · -- The entry lies below the directory, and its path goes through the name.
    rintro ⟨entry, inside, reached⟩
    cases below : directory.below? entry.1 with
    | none => simp [below] at reached
    | some rest =>
      rw [below, Option.map_some, Option.getD_some, Path.mem_heads_iff] at reached
      refine ⟨reached.1, entry, inside, ?_⟩
      rw [(below?_eq_some_iff _ _ _).mp below]
      exact (List.prefix_append_right_inj directory).mpr reached.2
  · -- The entry goes on behind the name, so that the name is one of its heads.
    rintro ⟨nonempty, entry, inside, rest, goes⟩
    refine ⟨entry, inside, ?_⟩
    have below : directory.below? entry.1 = some (name ++ rest) := by
      rw [below?_eq_some_iff, ← List.append_assoc, goes]
    rw [below, Option.map_some, Option.getD_some, Path.mem_heads_iff]
    exact ⟨nonempty, List.prefix_append _ _⟩

/-- Where something lies below, there is a directory. -/
theorem isDirectory_of_mem_below {tree : FileTree} {directory name : Path}
    (inside : name ∈ tree.below directory) : tree.isDirectory directory = true := by
  obtain ⟨nonempty, entry, listed, begins⟩ := (mem_below_iff tree directory name).mp inside
  -- The entry's path is longer than that of the directory, by the name at least.
  have apart : entry.1 ≠ directory := by
    intro same
    rw [same] at begins
    have longer := begins.length_le
    rw [List.length_append] at longer
    exact nonempty (List.length_eq_zero_iff.mp (by omega))
  have implies : impliesDirectory directory entry = true := by
    rw [impliesDirectory, Bool.and_eq_true, Bool.or_eq_true, bne_iff_ne]
    exact ⟨List.isPrefixOf_iff_prefix.mpr ((List.prefix_append _ _).trans begins), .inl apart⟩
  rw [isDirectory, Bool.or_eq_true, List.any_eq_true]
  exact .inr ⟨entry, listed, implies⟩

/-- Nothing stands twice among what is below a directory. -/
theorem nodup_below (tree : FileTree) (directory : Path) : (tree.below directory).Nodup :=
  nodup_eraseDups _

/-- A path with one name more leads one step further. -/
theorem locate?_concat (tree : FileTree) (init : Path) (last : String) :
    tree.locate? (init ++ [last]) = tree.descend (tree.locate? init) last := by
  rw [locate?, List.foldl_append]
  rfl

/-- From a directory every name leads one step further. -/
theorem descend_of_isDirectory {tree : FileTree} {place : Path}
    (there : tree.isDirectory place = true) (name : String) :
    tree.descend (some place) name = some (place.step name) := by
  rw [descend, Option.filter_some, if_pos there, Option.map_some]

/-- A path leads to a place of the same last name, unless that name goes back up. -/
theorem getLast?_of_locate? {tree : FileTree} {path place : Path} {last : String}
    (ends : path.getLast? = some last) (down : last ≠ Path.up)
    (located : tree.locate? path = some place) : place.getLast? = some last := by
  obtain ⟨init, rfl⟩ := List.getLast?_eq_some_iff.mp ends
  -- The last step goes down from wherever the other names lead.
  rw [locate?_concat, descend, Option.map_eq_some_iff] at located
  obtain ⟨here, -, rfl⟩ := located
  rw [Path.step, if_neg down, List.getLast?_append, List.getLast?_singleton, Option.some_or]

/-- A path whose first name is too long is refused, as the file system has a root to be asked. -/
theorem refuses_of_overlong {name : String} {rest : Path} (tree : FileTree)
    (unbroken : Path.isBroken (name :: rest) = false)
    (long : Path.nameLimit < name.utf8ByteSize) : tree.refuses (name :: rest) = true := by
  -- The root of the file system always is a directory.
  have asked : tree.isDirectory [] = true := by
    rw [isDirectory, List.isEmpty_nil, Bool.true_or]
  rw [refuses, refusesFrom, unbroken, asked, decide_eq_true long]
  simp only [Bool.not_false, Bool.true_or, Bool.and_self, Bool.or_true]

/-- A path is refused for the length of its text, whether its directories are there or not. -/
theorem refuses_of_overlong_text {path : Path} (tree : FileTree) (unbroken : path.isBroken = false)
    (long : Path.textLimit ≤ path.text.utf8ByteSize) : tree.refuses path = true := by
  rw [refuses, unbroken, decide_eq_true long]
  rfl

end Titling.FileTree
