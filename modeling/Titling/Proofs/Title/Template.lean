import Titling.Proofs.Title.Form

/-! Templates: each variable is replaced where it stands, and its value is not read again. -/

namespace Titling.Title.Expression

open Titling.Text

section Expansion

variable {find : Find} {expression : String}

/-- Plain text in front of pieces stays in front of what these expand to. -/
theorem expand_plain (text : List Char) (pieces : List (Piece String)) :
    expand find expression (text.map .plain ++ pieces) =
      (expand find expression pieces).map (text ++ ·) := by
  -- Characters go into the value as they are, one by one.
  induction text with
  | nil => cases h : expand find expression pieces <;> simp [h, Except.map]
  | cons char text ih =>
    simp only [List.map_cons, List.cons_append, expand, ih]
    cases expand find expression pieces <;> rfl

/-- A variable that has a value is replaced by it. -/
theorem expand_found_of_valued {name value : String}
    (valued : lookup find expression name = .ok value) (pieces : List (Piece String)) :
    expand find expression (.found name :: pieces) =
      (expand find expression pieces).map (value.toList ++ ·) := by
  rw [expand, valued]
  cases expand find expression pieces <;> rfl

/-- A variable without a value is the reason why there is none at all, whatever follows it. -/
theorem expand_found_of_failed {name : String} {failure : Failure}
    (failed : lookup find expression name = .error failure) (pieces : List (Piece String)) :
    expand find expression (.found name :: pieces) = .error failure := by
  rw [expand, failed]
  rfl

/-- A variable with a text has that as its value. -/
theorem lookup_of_valued {name value : String} (valued : find name = .ok (some value)) :
    lookup find expression name = .ok value := by
  rw [lookup, valued]

/-- A variable that is unknown is the reason why it has no value. -/
theorem lookup_of_unknown {name : String} (unknown : find name = .ok none) :
    lookup find expression name =
      .error (.evaluation ⟨expression, .unknownVariable name⟩) := by
  rw [lookup, unknown]

/-- A variable whose value has no text fails as that does. -/
theorem lookup_of_overlong {name : String} (overlong : find name = .error .overlongInteger) :
    lookup find expression name = .error .overlongInteger := by
  rw [lookup, overlong]

/-- Where all variables have a value, parts expand to the text with the values in it. -/
theorem expand_of_valued {parts : Parts Reference} {values : String → String}
    (valued : ∀ reference ∈ parts.occurrences,
      find reference.name = .ok (some (values reference.name))) :
    expand find expression (parts.pieces Reference.name) =
      .ok (parts.written fun reference => (values reference.name).toList) := by
  obtain ⟨front, rest⟩ := parts
  -- Induct over the occurrences; the text in front of each is put out before it.
  induction rest generalizing front with
  | nil =>
    have plain := @expand_plain find expression front []
    simpa [Parts.pieces, Parts.written, Parts.behind, expand, Except.map] using plain
  | cons part rest ih =>
    obtain ⟨reference, next⟩ := part
    have first := valued reference (by simp [Parts.occurrences])
    have later := ih next fun other inside => valued other (List.mem_cons_of_mem _ inside)
    rw [Parts.pieces_cons, expand_plain, expand_found_of_valued (lookup_of_valued first), later,
      Parts.written_cons]
    rfl

end Expansion

/-- Tells that a reference is the leftmost one whose variable has no value. -/
def IsLeftmostFailed (find : Find) (references : List Reference) (failed : Reference) : Prop :=
  ∃ front rest, references = front ++ failed :: rest ∧
    (∀ reference ∈ front, ∃ value, find reference.name = .ok (some value)) ∧
    ∀ value, find failed.name ≠ .ok (some value)

/-- All variables have values, or there is a leftmost one that has none. -/
theorem valued_or_leftmostFailed (find : Find) (references : List Reference) :
    (∀ reference ∈ references, ∃ value, find reference.name = .ok (some value)) ∨
      ∃ failed, IsLeftmostFailed find references failed := by
  -- The first one without a value decides, so the induction takes references off in front.
  induction references with
  | nil => exact .inl fun reference inside => absurd inside List.not_mem_nil
  | cons first rest ih =>
    by_cases here : ∃ value, find first.name = .ok (some value)
    · refine ih.imp ?_ ?_
      · exact fun valued => List.forall_mem_cons.mpr ⟨here, valued⟩
      · rintro ⟨failed, front, behind, rfl, valued, without⟩
        exact ⟨failed, first :: front, behind, rfl, List.forall_mem_cons.mpr ⟨here, valued⟩,
          without⟩
    · exact .inr ⟨first, [], rest, rfl, List.forall_mem_nil _,
        fun value found => here ⟨value, found⟩⟩

/-- A variable without a value is unknown, or its value has no text. -/
theorem IsLeftmostFailed.unknown_or_overlong {find : Find} {references : List Reference}
    {failed : Reference} (leftmost : IsLeftmostFailed find references failed) :
    find failed.name = .ok none ∨ find failed.name = .error .overlongInteger := by
  obtain ⟨-, -, -, -, without⟩ := leftmost
  rcases found : find failed.name with ⟨⟨⟩⟩ | (_ | value)
  · exact .inr rfl
  · exact .inl rfl
  · exact absurd found (without value)

/-- The leftmost variable without a value is the reason why parts do not expand. -/
theorem expand_of_leftmostFailed {find : Find} {expression : String} {parts : Parts Reference}
    {reference : Reference} {failure : Failure}
    (leftmost : IsLeftmostFailed find parts.occurrences reference)
    (failed : lookup find expression reference.name = .error failure) :
    expand find expression (parts.pieces Reference.name) = .error failure := by
  obtain ⟨front, rest, split, valued, -⟩ := leftmost
  obtain ⟨text, occurrences⟩ := parts
  -- Induct over the occurrences: those in front of the failed one have values, and are passed.
  induction occurrences generalizing text front with
  | nil => simp [Parts.occurrences] at split
  | cons part occurrences ih =>
    obtain ⟨first, next⟩ := part
    rw [Parts.pieces_cons, expand_plain]
    cases front with
    | nil =>
      obtain rfl : first = reference := (List.cons.inj split).1
      rw [expand_found_of_failed failed]
      rfl
    | cons other front =>
      obtain ⟨rfl, later⟩ := List.cons.inj split
      obtain ⟨value, found⟩ := valued _ List.mem_cons_self
      have behind := ih front (fun other inside => valued other (List.mem_cons_of_mem _ inside))
        next later
      rw [expand_found_of_valued (lookup_of_valued found), behind]
      rfl

end Titling.Title.Expression
