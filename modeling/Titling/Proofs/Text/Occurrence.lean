import Titling.Text.Occurrence

/-! Finding and replacing a fixed text: where it stands, and what stays as it is without it. -/

namespace Titling.Text

/-- Whatever is found in a text is found where some part of the text begins. -/
theorem exists_match_of_mem_split {α : Type} {matcher : Matcher α} {occurrence : α}
    {text : List Char} (found : .found occurrence ∈ Piece.split matcher text) :
    ∃ part extra, matcher part = some (occurrence, extra) := by
  -- The walk may stand inside an earlier occurrence, so the number of skipped characters varies.
  have walked : ∀ (text : List Char) (skip : Nat),
      .found occurrence ∈ Piece.walk matcher skip text →
      ∃ part extra, matcher part = some (occurrence, extra) := by
    intro text
    induction text with
    | nil => intro skip inside; cases skip <;> simp [Piece.walk] at inside
    | cons char rest ih =>
      intro skip inside
      cases skip with
      | succ skip => exact ih skip inside
      | zero =>
        rw [Piece.walk] at inside
        split at inside
        · rename_i other extra hit
          rcases List.mem_cons.mp inside with same | later
          · exact ⟨char :: rest, extra, by rw [hit, Piece.found.inj same]⟩
          · exact ih extra later
        · rcases List.mem_cons.mp inside with same | later
          · simp at same
          · exact ih 0 later
  exact walked text 0 found

/-- Nothing is put into the empty text. -/
@[simp] theorem replaceAll_nil (old new : List Char) : replaceAll old new [] = [] := rfl

/-- Where the old text does not begin, the first character stays. -/
theorem replaceAll_cons_of_not_begins {old : List Char} {char : Char} {rest : List Char}
    (new : List Char) (begins : old.isPrefixOf (char :: rest) = false) :
    replaceAll old new (char :: rest) = char :: replaceAll old new rest := by
  have missing : exactly old (char :: rest) = none := by simp [exactly, begins]
  simp [replaceAll, substitute, Piece.split_cons_none missing]

/-- An occurrence at the start is replaced, and the search goes on behind it. -/
theorem replaceAll_append {old : List Char} (new rest : List Char) (nonempty : old ≠ []) :
    replaceAll old new (old ++ rest) = new ++ replaceAll old new rest := by
  obtain ⟨first, tail, rfl⟩ := List.exists_cons_of_ne_nil nonempty
  have hit : exactly (first :: tail) (first :: (tail ++ rest)) = some ((), tail.length) := by
    simp [exactly]
  simp [replaceAll, substitute, Piece.split_cons_some hit]

/-- Replacing a single character is a choice made for each character by itself. -/
theorem replaceAll_single (old : Char) (new text : List Char) :
    replaceAll [old] new text = text.flatMap fun char => if char = old then new else [char] := by
  -- Induct over the text; each character is replaced or kept by itself.
  induction text with
  | nil => rfl
  | cons char rest ih =>
    by_cases same : char = old
    · subst same
      -- The occurrence is one character wide, so nothing of the rest belongs to it.
      have step : replaceAll [char] new ([char] ++ rest) = new ++ replaceAll [char] new rest :=
        replaceAll_append new rest (by simp)
      simpa [ih] using step
    · have begins : [old].isPrefixOf (char :: rest) = false := by
        simp [List.isPrefixOf, Ne.symm same]
      simp [replaceAll_cons_of_not_begins new begins, same, ih]

/-- Replacing a character that the replacement does not hold takes it out of the text. -/
theorem not_mem_replaceAll_single {old : Char} {new : List Char} (text : List Char)
    (fresh : old ∉ new) : old ∉ replaceAll [old] new text := by
  rw [replaceAll_single, List.mem_flatMap]
  rintro ⟨char, -, inside⟩
  split at inside
  · exact fresh inside
  · rename_i other
    exact other (List.mem_singleton.mp inside).symm

/-- A text that lacks a character of the old text stays as it is. -/
theorem replaceAll_of_not_mem {old : List Char} {needed : Char} (new : List Char)
    (part : needed ∈ old) {text : List Char} (absent : needed ∉ text) :
    replaceAll old new text = text := by
  induction text with
  | nil => rfl
  | cons char rest ih =>
    -- An occurrence here would bring every character of the old text with it.
    have begins : old.isPrefixOf (char :: rest) = false := by
      rw [Bool.eq_false_iff]
      intro begins
      exact absent ((List.isPrefixOf_iff_prefix.mp begins).subset part)
    rw [replaceAll_cons_of_not_begins new begins, ih fun later => absent (by simp [later])]

/-- A text stands in another one if it is a run of its characters. -/
theorem occurs_iff (part text : List Char) : occurs part text = true ↔ part <:+: text := by
  -- It begins the text, or it stands behind the first character.
  induction text with
  | nil => simp [occurs]
  | cons char rest ih =>
    rw [occurs, Bool.or_eq_true, List.isPrefixOf_iff_prefix, ih, List.infix_cons_iff]

/-- A text whose first character is not in some other text does not begin there. -/
theorem infix_append_iff_of_not_mem {first : Char} {part front rest : List Char}
    (fresh : first ∉ front) : first :: part <:+: front ++ rest ↔ first :: part <:+: rest := by
  -- An occurrence would have to begin with a character of the front.
  induction front with
  | nil => rfl
  | cons char front ih =>
    obtain ⟨other, later⟩ := not_or.mp (mt List.mem_cons.mpr fresh)
    rw [List.cons_append, List.infix_cons_iff, List.cons_prefix_cons, ih later]
    simp [other]

end Titling.Text
