import Titling.Proofs.Text.Marked

/-!
Texts taken apart into occurrences and the text between them.

Where each occurrence begins with a mark that it has nowhere else, and none begins another, a text
is taken apart in exactly one way, and scanning it finds these parts.
-/

namespace Titling.Text

variable {α β : Type}

/--
A text in parts: what stands in front of the first occurrence, and each occurrence with what stands
between it and the next one. There may be nothing in front or between.
-/
structure Parts (α : Type) where
  front : List Char
  rest : List (α × List Char)

namespace Parts

/-- Occurrences in turn, with a text written for each and what stands behind it. -/
def behind (write : α → List Char) (rest : List (α × List Char)) : List Char :=
  rest.flatMap fun part => write part.1 ++ part.2

/-- The parts joined, with a text written for each occurrence. -/
def written (write : α → List Char) (parts : Parts α) : List Char :=
  parts.front ++ behind write parts.rest

/-- The occurrences in order. -/
def occurrences (parts : Parts α) : List α :=
  parts.rest.map Prod.fst

/-- Tells that no occurrence stands in front of the first one, or between two. -/
structure IsFree (spell : α → List Char) (parts : Parts α) : Prop where
  front : NoneIn spell parts.front
  between : ∀ part ∈ parts.rest, NoneIn spell part.2

/-- The pieces of the parts, with what is read of each occurrence. -/
def pieces (read : α → β) (parts : Parts α) : List (Piece β) :=
  parts.front.map .plain ++ parts.rest.flatMap fun part =>
    .found (read part.1) :: part.2.map .plain

/-- Behind an occurrence comes the text up to the next one. -/
theorem behind_cons (write : α → List Char) (occurrence : α) (next : List Char)
    (rest : List (α × List Char)) :
    behind write ((occurrence, next) :: rest) =
      write occurrence ++ written write ⟨next, rest⟩ := by
  rw [behind, List.flatMap_cons, List.append_assoc]
  rfl

/-- Parts are written from the front on. -/
theorem written_cons (write : α → List Char) (front : List Char) (occurrence : α)
    (next : List Char) (rest : List (α × List Char)) :
    written write ⟨front, (occurrence, next) :: rest⟩ =
      front ++ (write occurrence ++ written write ⟨next, rest⟩) := by
  rw [written, behind_cons]

/-- The pieces of parts are those of the front, and then of each occurrence and what follows it. -/
theorem pieces_cons (read : α → β) (front : List Char) (occurrence : α) (next : List Char)
    (rest : List (α × List Char)) :
    pieces read ⟨front, (occurrence, next) :: rest⟩ =
      front.map .plain ++ .found (read occurrence) :: pieces read ⟨next, rest⟩ := by
  simp [pieces]

/-- Parts are free if the front is, and what follows the first occurrence is. -/
theorem isFree_cons_iff (spell : α → List Char) (front : List Char) (occurrence : α)
    (next : List Char) (rest : List (α × List Char)) :
    IsFree spell ⟨front, (occurrence, next) :: rest⟩ ↔
      NoneIn spell front ∧ IsFree spell ⟨next, rest⟩ := by
  -- What follows the first occurrence is the front of the parts that are left.
  constructor
  · rintro ⟨free, between⟩
    exact ⟨free, between (occurrence, next) (by simp), fun part later =>
      between part (List.mem_cons_of_mem _ later)⟩
  · rintro ⟨free, first, between⟩
    refine ⟨free, fun part inside => ?_⟩
    rcases List.mem_cons.mp inside with rfl | later
    · exact first
    · exact between part later

end Parts

namespace IsMarked

open Parts

variable {spell : α → List Char} {mark : Char}

/-- Behind a front there is nothing, or an occurrence with its mark. -/
theorem head?_behind (marked : IsMarked spell mark) (rest : List (α × List Char)) :
    ∀ next ∈ (behind spell rest).head?, next = mark := by
  -- Nothing stands behind the front, or an occurrence does, which begins with its mark.
  cases rest with
  | nil => simp [behind]
  | cons part rest =>
    obtain ⟨tail, spelled, -⟩ := marked.exists_eq part.1
    simp [behind, spelled]

/-- Where a text has two free fronts and one begins the other, they are the same. -/
theorem front_eq_of_prefix (marked : IsMarked spell mark) {front front' : List Char}
    {rest rest' : List (α × List Char)} (free' : NoneIn spell front') (begins : front <+: front')
    (same : front ++ behind spell rest = front' ++ behind spell rest') : front = front' := by
  obtain ⟨beyond, rfl⟩ := begins
  rw [List.append_assoc, List.append_cancel_left_eq] at same
  cases beyond with
  | nil => rw [List.append_nil]
  | cons char beyond =>
    -- The shorter front ends at an occurrence, which would begin inside the longer one.
    have absent := marked.noneBegins_append (by simp) free'.of_append (marked.head?_behind rest')
    rw [← same] at absent
    cases rest with
    | nil => simp [behind] at same
    | cons part rest =>
      rw [behind_cons] at absent
      exact absurd (List.prefix_append _ _) (absent part.1)

/-- A text has one free front. -/
theorem front_unique (marked : IsMarked spell mark) {front front' : List Char}
    {rest rest' : List (α × List Char)} (free : NoneIn spell front) (free' : NoneIn spell front')
    (same : front ++ behind spell rest = front' ++ behind spell rest') : front = front' := by
  -- Both fronts begin the same text, so that one of them begins the other.
  have begins : front' <+: front ++ behind spell rest := same ▸ List.prefix_append _ _
  rcases List.prefix_or_prefix_of_prefix (List.prefix_append front _) begins with inside | inside
  · exact marked.front_eq_of_prefix free' inside same
  · exact (marked.front_eq_of_prefix free inside same.symm).symm

/-- Free parts of the same text are the same. -/
theorem parts_unique (marked : IsMarked spell mark) {parts parts' : Parts α}
    (free : parts.IsFree spell) (free' : parts'.IsFree spell)
    (same : parts.written spell = parts'.written spell) : parts = parts' := by
  obtain ⟨front, rest⟩ := parts
  obtain ⟨front', rest'⟩ := parts'
  -- Induct over the occurrences; the fronts are the same, and so the occurrences behind them are.
  induction rest generalizing front front' rest' with
  | nil =>
    obtain rfl : front = front' := marked.front_unique free.front free'.front same
    rw [written, written, List.append_cancel_left_eq] at same
    cases rest' with
    | nil => rfl
    | cons part rest' => simp [behind, marked.spell_ne_nil] at same
  | cons part rest ih =>
    obtain rfl : front = front' := marked.front_unique free.front free'.front same
    rw [written, written, List.append_cancel_left_eq] at same
    obtain ⟨first, next⟩ := part
    cases rest' with
    | nil => simp [behind, marked.spell_ne_nil] at same
    | cons part' rest' =>
      obtain ⟨second, next'⟩ := part'
      rw [behind_cons, behind_cons] at same
      have begins : spell second <+: spell first ++ written spell ⟨next, rest⟩ :=
        same ▸ List.prefix_append _ _
      obtain rfl := marked.eq_of_prefixes (List.prefix_append _ _) begins
      rw [List.append_cancel_left_eq] at same
      have later := ih next ((isFree_cons_iff _ _ _ _ _).mp free).2 next' rest'
        ((isFree_cons_iff _ _ _ _ _).mp free').2 same
      rw [Parts.mk.injEq] at later
      rw [later.1, later.2]

/-- What stands behind a front has the occurrences in turn, and no others. -/
theorem infix_behind_iff (marked : IsMarked spell mark) {rest : List (α × List Char)}
    (between : ∀ part ∈ rest, NoneIn spell part.2) (occurrence : α) :
    spell occurrence <:+: behind spell rest ↔ occurrence ∈ rest.map Prod.fst := by
  -- Induct over the occurrences; one more stands at the start or behind the next free text.
  induction rest with
  | nil => simp [behind, marked.spell_ne_nil]
  | cons part rest ih =>
    obtain ⟨other, next⟩ := part
    have free : NoneIn spell next := between (other, next) List.mem_cons_self
    rw [behind_cons, marked.infix_spell_append_iff, written,
      marked.infix_append_iff free (marked.head?_behind rest),
      ih fun part later => between part (List.mem_cons_of_mem _ later)]
    simp

/-- An occurrence stands in a text exactly if it is one of those between its free parts. -/
theorem infix_written_iff (marked : IsMarked spell mark) {parts : Parts α}
    (free : parts.IsFree spell) (occurrence : α) :
    spell occurrence <:+: parts.written spell ↔ occurrence ∈ parts.occurrences := by
  rw [written, marked.infix_append_iff free.front (marked.head?_behind parts.rest),
    marked.infix_behind_iff free.between]
  rfl

end IsMarked

namespace Finds

variable {spell : α → List Char} {mark : Char} {matcher : Matcher β} {read : α → β}

/-- Every text has free parts, and a scan of the text finds their pieces. -/
theorem exists_parts (finds : Finds matcher spell read) (marked : IsMarked spell mark)
    (text : List Char) :
    ∃ parts : Parts α, parts.IsFree spell ∧ parts.written spell = text ∧
      Piece.split matcher text = parts.pieces read := by
  -- Induct over the scan, which passes an occurrence as a whole.
  induction text using marked.scan with
  | nil => exact ⟨⟨[], []⟩, ⟨marked.noneIn_nil, by simp⟩, rfl, rfl⟩
  | occurrence first rest ih =>
    obtain ⟨⟨front, later⟩, free, rfl, scanned⟩ := ih
    refine ⟨⟨[], (first, front) :: later⟩, ?_, ?_, ?_⟩
    · exact (Parts.isFree_cons_iff _ _ _ _ _).mpr ⟨marked.noneIn_nil, free⟩
    · rw [Parts.written_cons, List.nil_append]
    · rw [finds.split_append marked, scanned]
      rfl
  | plain char rest absent ih =>
    -- Where none begins, the character belongs to the front.
    obtain ⟨⟨front, later⟩, free, rfl, scanned⟩ := ih
    have outer : NoneBegins spell (char :: front) := fun first begins =>
      absent first (begins.trans (List.prefix_append (char :: front) _))
    refine ⟨⟨char :: front, later⟩, ⟨?_, free.between⟩, rfl, ?_⟩
    · exact (noneIn_cons_iff _ _ _).mpr ⟨outer, free.front⟩
    · rw [Piece.split_cons_none (finds.missing _ absent), scanned]
      rfl

end Finds

end Titling.Text
