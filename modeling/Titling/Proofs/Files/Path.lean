import Mathlib.Data.List.Induction
import Mathlib.Data.List.Lex
import Mathlib.Data.String.Basic
import Titling.Files.Path

/-!
The order of paths, which compares name by name as the order of lists does, and names in paths.

A text that is a single name leads from a directory one name further down.
-/

namespace Titling.Path

/-- A path comes no later than another if it is the same path or comes before it. -/
theorem le_iff (first second : Path) :
    le first second = true ↔ first = second ∨ first < second := by
  induction first generalizing second with
  | nil => cases second <;> simp [le]
  | cons name rest ih =>
    cases second with
    | nil => simp [le]
    | cons other others =>
      -- The first names decide unless they are the same.
      rw [le, List.cons_lt_cons_iff, List.cons.injEq]
      by_cases same : name = other
      · simp [same, ih]
      · simp [same]

/-- Of two paths one comes no later than the other. -/
theorem le_total (first second : Path) : (le first second || le second first) = true := by
  -- By the first law this is the trichotomy of the order of lists.
  rw [Bool.or_eq_true, le_iff, le_iff]
  rcases lt_trichotomy first second with before | rfl | behind
  · exact .inl (.inr before)
  · exact .inl (.inl rfl)
  · exact .inr (.inr behind)

/-- The order of paths goes on from one path to the next. -/
theorem le_trans (first second third : Path) (before : le first second = true)
    (behind : le second third = true) : le first third = true := by
  rw [le_iff] at before behind ⊢
  rcases before with rfl | before
  · exact behind
  · rcases behind with rfl | behind
    · exact .inr before
    · exact .inr (lt_trans before behind)

/-- Paths below a directory are in the order of their names below it. -/
theorem append_lt_append_iff (directory first second : Path) :
    directory ++ first < directory ++ second ↔ first < second := by
  induction directory with
  | nil => rfl
  | cons name rest ih => simp [ih]

/-- The paths that a path goes through are those that it begins with, up to itself. -/
theorem mem_heads_iff (head path : Path) : head ∈ heads path ↔ head ≠ [] ∧ head <+: path := by
  induction path generalizing head with
  | nil => simp [heads]
  | cons name rest ih =>
    rw [heads, List.mem_cons, List.mem_map]
    -- A head is the first name alone, or it goes on to a head of the rest.
    constructor
    · rintro (rfl | ⟨later, inside, rfl⟩)
      · exact ⟨List.cons_ne_nil _ _, ⟨rest, rfl⟩⟩
      · obtain ⟨-, begins⟩ := (ih later).mp inside
        exact ⟨List.cons_ne_nil _ _, List.cons_prefix_cons.mpr ⟨rfl, begins⟩⟩
    · rintro ⟨nonempty, begins⟩
      obtain ⟨first, others, rfl⟩ := List.exists_cons_of_ne_nil nonempty
      obtain ⟨rfl, later⟩ := List.cons_prefix_cons.mp begins
      -- Behind the first name the path goes on, or it ends there.
      cases others with
      | nil => exact .inl rfl
      | cons second others => exact .inr ⟨_, (ih _).mpr ⟨List.cons_ne_nil _ _, later⟩, rfl⟩

/-- Tells that a text is the name of one file or directory, and of none above. -/
structure IsName (text : String) : Prop where
  nonempty : text ≠ ""
  apart : text ≠ "."
  down : text ≠ up
  whole : separator ∉ text.toList

/-- Tells that no file system refuses to look a path up for its length, or for that of a name. -/
structure Fits (path : Path) : Prop where
  names : ∀ name ∈ path, name.utf8ByteSize ≤ nameLimit
  text : path.text.utf8ByteSize < textLimit

instance : DecidablePred Fits := fun path =>
  decidable_of_iff
    ((∀ name ∈ path, name.utf8ByteSize ≤ nameLimit) ∧ path.text.utf8ByteSize < textLimit)
    ⟨fun fits => ⟨fits.1, fits.2⟩, fun fits => ⟨fits.1, fits.2⟩⟩

/-- The text of a path is no longer than that of a path that goes on from it. -/
theorem utf8ByteSize_text_append_le (path rest : Path) :
    path.text.utf8ByteSize ≤ (path ++ rest : Path).text.utf8ByteSize := by
  -- The text of the shorter path begins that of the longer one, unless there is nothing in it.
  simp only [text, String.utf8ByteSize_append]
  by_cases top : path = []
  · subst top
    simp
  · by_cases same : rest = []
    · simp [same]
    · rw [String.intercalate_append_of_ne_nil top same]
      simp only [String.utf8ByteSize_append]
      omega

/-- What a path that fits begins with fits as well. -/
theorem Fits.of_prefix {head path : Path} (fits : path.Fits) (begins : head <+: path) :
    head.Fits := by
  obtain ⟨rest, rfl⟩ := begins
  -- A name may only be shorter with fewer names behind it, and so may the whole text.
  refine ⟨fun name inside => fits.names name (List.mem_append_left _ inside), ?_⟩
  exact (utf8ByteSize_text_append_le head rest).trans_lt fits.text

/-- The text of a name has this name and no other in it. -/
theorem names_of_isName {name : String} (named : IsName name) : names name = [name] := by
  -- No separator splits the name, and it is none of the names that say nothing.
  rw [names, List.splitOn_eq_singleton named.whole]
  simp [named.nonempty, named.apart]

/-- A name leads from a directory to what is called so in it. -/
theorem join_of_isName {name : String} (named : IsName name) (directory : Path) :
    join directory name = directory ++ [name] := by
  -- A text that begins at the root has a separator in it.
  have relative : isAbsolute name = false := by
    rw [isAbsolute, String.startsWith_string_eq_false_iff]
    intro begins
    exact named.whole (begins.subset (by simp [separator]))
  rw [join, relative, names_of_isName named]
  rfl

/-- An empty text leads nowhere else. -/
theorem join_empty (directory : Path) : join directory "" = directory := by
  have relative : isAbsolute "" = false := by decide +kernel
  have nothing : names "" = [] := by cbv
  rw [join, relative, nothing]
  exact List.append_nil directory

/-- A path that never goes back up is as it is when it is worked out. -/
theorem normalize_of_down {path : Path} (down : up ∉ path) : path.normalize = path := by
  induction path using List.reverseRecOn with
  | nil => rfl
  -- Induct from the end, where the last name is stepped to.
  | append_singleton init last ih =>
    rw [List.mem_append, List.mem_singleton, not_or] at down
    rw [normalize, List.foldl_concat, ← normalize, ih down.1, step, if_neg (Ne.symm down.2)]

/-- A path can be that of a file if no name in it has the character that ends a text. -/
theorem isBroken_of_whole {path : Path} (whole : ∀ name ∈ path, terminator ∉ name.toList) :
    path.isBroken = false := by
  rw [isBroken, List.any_eq_false]
  intro name inside
  -- Only the character that ends a text breaks a name.
  rw [String.contains_char_eq, decide_eq_true_eq]
  exact whole name inside

/-- A name of so many characters, of one byte each. -/
def nameOf (length : Nat) : String :=
  String.ofList (List.replicate length 'x')

/-- Such a name can stand in a path. -/
theorem not_mem_nameOf (length : Nat) : terminator ∉ (nameOf length).toList := by
  rw [nameOf, String.toList_ofList]
  simp [terminator]

end Titling.Path
