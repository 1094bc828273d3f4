import Titling.Proofs.Text.Occurrence

/-!
Occurrences that are told apart in a text, as each begins with a mark that it has nowhere else.

No two of them overlap, so a scan from left to right comes to each one that stands in the text.
-/

namespace Titling.Text

variable {α β : Type}

/--
Tells that occurrences are written so that none is mistaken for another: each begins with a mark
that it does not have again, and none is the beginning of another one.
-/
structure IsMarked (spell : α → List Char) (mark : Char) : Prop where
  exists_eq : ∀ occurrence, ∃ tail, spell occurrence = mark :: tail ∧ mark ∉ tail
  eq_of_prefix : ∀ first second, spell first <+: spell second → first = second

/-- Tells that no occurrence begins a text. -/
def NoneBegins (spell : α → List Char) (text : List Char) : Prop :=
  ∀ occurrence, ¬ spell occurrence <+: text

/-- Tells that no occurrence stands anywhere in a text. -/
def NoneIn (spell : α → List Char) (text : List Char) : Prop :=
  ∀ occurrence, ¬ spell occurrence <:+: text

/-- An occurrence stands in a text if it begins it or stands behind the first character. -/
theorem noneIn_cons_iff (spell : α → List Char) (char : Char) (rest : List Char) :
    NoneIn spell (char :: rest) ↔ NoneBegins spell (char :: rest) ∧ NoneIn spell rest := by
  simp only [NoneIn, NoneBegins, List.infix_cons_iff, not_or, forall_and]

/-- What has no occurrence in it has none in its last characters. -/
theorem NoneIn.of_append {spell : α → List Char} {front back : List Char}
    (free : NoneIn spell (front ++ back)) : NoneIn spell back := by
  intro occurrence inside
  exact free occurrence (inside.trans (List.suffix_append front back).isInfix)

namespace IsMarked

variable {spell : α → List Char} {mark : Char}

/-- An occurrence is not written with nothing. -/
theorem spell_ne_nil (marked : IsMarked spell mark) (occurrence : α) : spell occurrence ≠ [] := by
  obtain ⟨tail, spelled, -⟩ := marked.exists_eq occurrence
  rw [spelled]
  exact List.cons_ne_nil mark tail

/-- Nothing stands in the empty text. -/
theorem noneIn_nil (marked : IsMarked spell mark) : NoneIn spell [] :=
  fun occurrence inside => marked.spell_ne_nil occurrence (List.infix_nil.mp inside)

/-- A text begins with at most one occurrence. -/
theorem eq_of_prefixes (marked : IsMarked spell mark) {first second : α} {text : List Char}
    (begins : spell first <+: text) (begins' : spell second <+: text) : first = second := by
  -- Of two occurrences that begin the same text, the shorter one begins the longer one.
  rcases List.prefix_or_prefix_of_prefix begins begins' with inside | inside
  · exact marked.eq_of_prefix first second inside
  · exact (marked.eq_of_prefix second first inside).symm

/--
A text without occurrences goes on being without one at its first character if what follows it is
nothing, or begins with the mark.
-/
theorem noneBegins_append (marked : IsMarked spell mark) {text rest : List Char}
    (nonempty : text ≠ []) (free : NoneIn spell text)
    (border : ∀ next ∈ rest.head?, next = mark) : NoneBegins spell (text ++ rest) := by
  intro occurrence begins
  rcases List.prefix_or_prefix_of_prefix begins (List.prefix_append text rest) with
    inside | ⟨beyond, across⟩
  · exact free occurrence inside.isInfix
  · obtain ⟨tail, spelled, single⟩ := marked.exists_eq occurrence
    obtain ⟨first, later, rfl⟩ := List.exists_cons_of_ne_nil nonempty
    cases beyond with
    | nil =>
      rw [List.append_nil] at across
      exact free occurrence (across ▸ List.infix_rfl)
    | cons next beyond =>
      -- An occurrence that reaches over the border would have a second mark.
      rw [← across, List.prefix_append_right_inj] at begins
      obtain ⟨more, rfl⟩ := begins
      have again : next = mark := border next rfl
      rw [spelled, List.cons_append, List.cons.injEq] at across
      rw [← across.2, again] at single
      simp at single

/-- No occurrence begins in a text without one if that ends there, or goes on with the mark. -/
theorem infix_append_iff (marked : IsMarked spell mark) {text rest : List Char}
    (free : NoneIn spell text) (border : ∀ next ∈ rest.head?, next = mark) (occurrence : α) :
    spell occurrence <:+: text ++ rest ↔ spell occurrence <:+: rest := by
  -- Induct over the text, of which no character can be where an occurrence begins.
  induction text with
  | nil => rfl
  | cons char text ih =>
    have absent := marked.noneBegins_append (List.cons_ne_nil char text) free border occurrence
    rw [List.cons_append] at absent ⊢
    rw [List.infix_cons_iff, ih ((noneIn_cons_iff _ _ _).mp free).2]
    simp only [absent, false_or]

/-- No two occurrences overlap, so behind one another stands in the rest of the text. -/
theorem infix_spell_append_iff (marked : IsMarked spell mark) (occurrence other : α)
    (rest : List Char) :
    spell occurrence <:+: spell other ++ rest ↔
      occurrence = other ∨ spell occurrence <:+: rest := by
  have starts : spell occurrence <+: spell other ++ rest ↔ occurrence = other := by
    constructor
    · exact fun begins => marked.eq_of_prefixes begins (List.prefix_append _ _)
    · rintro rfl
      exact List.prefix_append _ _
  obtain ⟨tail, spelled, -⟩ := marked.exists_eq occurrence
  obtain ⟨rear, shown, single⟩ := marked.exists_eq other
  -- Past its first character the occurrence in front has no mark for another one to begin with.
  rw [shown, List.cons_append, List.infix_cons_iff, ← List.cons_append, ← shown, starts, spelled,
    infix_append_iff_of_not_mem single]

/--
A text is scanned from left to right: an occurrence is passed as a whole, and where none begins, one
character is.
-/
@[elab_as_elim] theorem scan (marked : IsMarked spell mark) {motive : List Char → Prop}
    (nil : motive [])
    (occurrence : ∀ (first : α) (rest : List Char), motive rest →
      motive (spell first ++ rest))
    (plain : ∀ (char : Char) (rest : List Char), NoneBegins spell (char :: rest) → motive rest →
      motive (char :: rest))
    (text : List Char) : motive text := by
  -- What is left of the text is shorter after each step.
  induction size : text.length using Nat.strongRecOn generalizing text with
  | _ size ih =>
    subst size
    cases text with
    | nil => exact nil
    | cons char rest =>
      by_cases begins : ∃ first, spell first <+: char :: rest
      · obtain ⟨first, after, same⟩ := begins
        have shorter : after.length < (char :: rest).length := by
          have positive := List.length_pos_iff.mpr (marked.spell_ne_nil first)
          rw [← same, List.length_append]
          omega
        rw [← same]
        exact occurrence first after (ih after.length shorter after rfl)
      · rw [not_exists] at begins
        exact plain char rest begins (ih rest.length (by simp) rest rfl)

end IsMarked

/-- Tells that a matcher finds occurrences where they begin, and what it reads of each. -/
structure Finds (matcher : Matcher β) (spell : α → List Char) (read : α → β) : Prop where
  found : ∀ occurrence rest,
    matcher (spell occurrence ++ rest) = some (read occurrence, (spell occurrence).length - 1)
  missing : ∀ text, NoneBegins spell text → matcher text = none

namespace Finds

variable {spell : α → List Char} {mark : Char} {matcher : Matcher β} {read : α → β}

/-- An occurrence at the start of a text is one piece, and the scan goes on behind it. -/
theorem split_append (finds : Finds matcher spell read) (marked : IsMarked spell mark)
    (occurrence : α) (rest : List Char) :
    Piece.split matcher (spell occurrence ++ rest) =
      .found (read occurrence) :: Piece.split matcher rest := by
  -- The occurrence is found at its mark, and the scan skips all of its other characters.
  have hit := finds.found occurrence rest
  obtain ⟨tail, spelled, -⟩ := marked.exists_eq occurrence
  rw [spelled, List.cons_append] at hit ⊢
  rw [Piece.split_cons_some hit]
  simp

end Finds

end Titling.Text
