import Titling.Proofs.Text.Marked

/-!
Replacing one occurrence by another: a scan finds the new one wherever it found the old one.

No occurrence is made or broken where a replacement meets the text around it, because each begins
with a mark that it has nowhere else.
-/

namespace Titling.Text

variable {α : Type}

/-- Changes the occurrence of a piece; a character on its own stays as it is. -/
def Piece.map {β : Type} (change : α → β) : Piece α → Piece β
  | .plain char => .plain char
  | .found occurrence => .found (change occurrence)

/-- A character stays where the old text does not begin. -/
theorem replaceAll_cons_of_missing {old : List Char} (new : List Char) {char : Char}
    {rest : List Char} (absent : ¬ old <+: char :: rest) :
    replaceAll old new (char :: rest) = char :: replaceAll old new rest := by
  refine replaceAll_cons_of_not_begins new ?_
  rwa [Bool.eq_false_iff, ne_eq, List.isPrefixOf_iff_prefix]

/-- Without the first character of the old text there is nothing to replace. -/
theorem replaceAll_append_of_not_mem {first : Char} (old new : List Char) {front : List Char}
    (absent : first ∉ front) (rest : List Char) :
    replaceAll (first :: old) new (front ++ rest) =
      front ++ replaceAll (first :: old) new rest := by
  -- No character of the front is the one with which the old text begins.
  induction front with
  | nil => rfl
  | cons char front ih =>
    obtain ⟨other, later⟩ := not_or.mp (mt List.mem_cons.mpr absent)
    have missing : ¬ first :: old <+: char :: (front ++ rest) := by
      simp [List.cons_prefix_cons, other]
    rw [List.cons_append, replaceAll_cons_of_missing new missing, ih later, List.cons_append]

/-- Up to the first mark a text begins as it did before marked texts in it were replaced. -/
theorem prefix_replaceAll_iff {mark : Char} (old new : List Char) {part : List Char}
    (unmarked : mark ∉ part) (text : List Char) :
    part <+: replaceAll (mark :: old) (mark :: new) text ↔ part <+: text := by
  -- Induct over the part: its characters are compared with those of the text one by one.
  induction part generalizing text with
  | nil => simp
  | cons char part ih =>
    obtain ⟨other, later⟩ := not_or.mp (mt List.mem_cons.mpr unmarked)
    cases text with
    | nil => simp
    | cons first rest =>
      by_cases begins : mark :: old <+: first :: rest
      · -- Before and after, the text begins with the mark, and the part does not.
        obtain ⟨more, whole⟩ := begins
        rw [← whole, replaceAll_append _ _ (List.cons_ne_nil mark old), List.cons_append,
          List.cons_append, List.cons_prefix_cons, List.cons_prefix_cons]
        simp [Ne.symm other]
      · rw [replaceAll_cons_of_missing _ begins, List.cons_prefix_cons,
          List.cons_prefix_cons, ih later]

namespace IsMarked

variable {spell : α → List Char} {mark : Char}

/-- No other occurrence is replaced, not even where it meets what follows. -/
theorem replaceAll_spell_append (marked : IsMarked spell mark) {old other : α}
    (apart : old ≠ other) (new rest : List Char) :
    replaceAll (spell old) new (spell other ++ rest) =
      spell other ++ replaceAll (spell old) new rest := by
  obtain ⟨tail, shown, single⟩ := marked.exists_eq other
  have absent : ¬ spell old <+: spell other ++ rest := fun begins =>
    apart (marked.eq_of_prefixes begins (List.prefix_append _ _))
  obtain ⟨more, spelled, -⟩ := marked.exists_eq old
  -- Behind its mark the occurrence has no place where another one could begin.
  rw [shown, spelled, List.cons_append] at absent ⊢
  rw [replaceAll_cons_of_missing new absent, replaceAll_append_of_not_mem more new single,
    List.cons_append]

/-- Where no occurrence begins, none does after replacements behind the first character. -/
theorem noneBegins_cons_replaceAll (marked : IsMarked spell mark) (old new : α) {char : Char}
    {rest : List Char} (absent : NoneBegins spell (char :: rest)) :
    NoneBegins spell (char :: replaceAll (spell old) (spell new) rest) := by
  intro occurrence begins
  obtain ⟨before, oldSpelled, -⟩ := marked.exists_eq old
  obtain ⟨after, newSpelled, -⟩ := marked.exists_eq new
  obtain ⟨tail, spelled, single⟩ := marked.exists_eq occurrence
  -- Only the rest of the occurrence could stand in what was replaced, and it has no mark.
  rw [spelled, oldSpelled, newSpelled, List.cons_prefix_cons,
    prefix_replaceAll_iff before after single, ← List.cons_prefix_cons, ← spelled] at begins
  exact absent occurrence begins

end IsMarked

/-- Replacing occurrences renames the pieces that a scan finds, and leaves all others alone. -/
theorem Finds.split_replaceAll [DecidableEq α] {spell : α → List Char} {mark : Char}
    {matcher : Matcher α} (finds : Finds matcher spell id) (marked : IsMarked spell mark)
    (old new : α) (text : List Char) :
    Piece.split matcher (replaceAll (spell old) (spell new) text) =
      (Piece.split matcher text).map
        (Piece.map fun occurrence => if occurrence = old then new else occurrence) := by
  -- Induct over the scan of the text; the scan of what comes of it takes the same steps.
  induction text using marked.scan with
  | nil => rfl
  | occurrence first rest ih =>
    by_cases same : first = old
    · subst same
      rw [replaceAll_append _ _ (marked.spell_ne_nil first), finds.split_append marked,
        finds.split_append marked, List.map_cons, ih]
      simp [Piece.map]
    · rw [marked.replaceAll_spell_append (Ne.symm same), finds.split_append marked,
        finds.split_append marked, List.map_cons, ih]
      simp [Piece.map, same]
  | plain char rest absent ih =>
    -- Where none begins, none comes to begin there, so the character is scanned by itself.
    have still := marked.noneBegins_cons_replaceAll old new absent
    rw [replaceAll_cons_of_missing _ (absent old), Piece.split_cons_none (finds.missing _ still),
      Piece.split_cons_none (finds.missing _ absent), List.map_cons, ih]
    rfl

end Titling.Text
