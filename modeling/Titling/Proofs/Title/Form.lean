import Titling.Proofs.Title.Expression
import Titling.Proofs.Title.Reference

/-! Forms of expressions: the ends tell literals and templates, the whole text a reference. -/

namespace Titling.Title.Expression

open Titling.Text

/-- A text between two marks. -/
def enclosed (mark : Char) (body : List Char) : List Char :=
  mark :: (body ++ [mark])

/-- Something stands between marks exactly if the text is that between the marks. -/
theorem between?_eq_some_iff (mark : Char) (text body : List Char) :
    between? mark text = some body ↔ text = enclosed mark body := by
  constructor
  · intro found
    -- The reader looks at the first character and at the last one, and both are marks.
    cases text with
    | nil => simp [between?] at found
    | cons first rest =>
      rw [between?] at found
      split at found
      · rename_i ends
        obtain ⟨rfl, last⟩ := ends
        obtain ⟨middle, rfl⟩ := List.getLast?_eq_some_iff.mp last
        rw [List.dropLast_concat] at found
        rw [Option.some.inj found, enclosed]
      · simp at found
  · rintro rfl
    exact between?_marked mark body

/-- A text is a reference exactly if it is written as one, with nothing left over. -/
theorem wholeReference?_eq_some_iff (text : List Char) (name : String) :
    wholeReference? text = some name ↔
      ∃ reference : Reference, reference.name = name ∧ reference.text = text := by
  constructor
  · intro whole
    unfold wholeReference? at whole
    split at whole
    · rename_i other extra found
      split at whole
      · rename_i size
        obtain ⟨reference, rfl, rest, same⟩ := Reference.exists_of_reference? found
        refine ⟨reference, Option.some.inj whole, ?_⟩
        -- What was found is as long as the text, and so nothing follows it.
        rw [← same, reference.reference?_text_append] at found
        have extras := (Prod.mk.inj (Option.some.inj found)).2
        have nothing : rest = [] := by
          rw [← List.length_eq_zero_iff]
          rw [← same, ← extras] at size
          simp only [Reference.text, List.length_append, List.length_cons] at size
          omega
        rw [← same, nothing, List.append_nil]
      · simp at whole
    · simp at whole
  · rintro ⟨reference, rfl, rfl⟩
    -- Backwards, the reference is found, and nothing is left behind it.
    have found := reference.reference?_text_append []
    rw [List.append_nil] at found
    rw [wholeReference?, found]
    exact if_pos (by simp [Reference.text])

/-- A text that begins with another character does not stand between marks. -/
theorem between?_of_ne {mark first : Char} (other : first ≠ mark) (rest : List Char) :
    between? mark (first :: rest) = none := by
  simp [between?, other]

/-- Tells how a form is written. No text is written for what is not supported. -/
inductive Form.IsWritten : Form → List Char → Prop
  | literal (body : List Char) : IsWritten (.literal body) (enclosed '\'' body)
  | template (body : List Char) : IsWritten (.template body) (enclosed '|' body)
  | reference (reference : Reference) : IsWritten (.reference reference.name) reference.text

/-- An expression has the form that it is written in, without the white space around it. -/
theorem ofExpression_of_isWritten {form : Form} {expression : String}
    (written : form.IsWritten (trim expression.toList)) : Form.ofExpression expression = form := by
  rw [Form.ofExpression]
  generalize trim expression.toList = text at written
  -- The first characters of the three kinds of texts are different.
  cases written with
  | literal body =>
    simp only [(between?_eq_some_iff _ _ body).mpr rfl]
  | template body =>
    have noLiteral : between? '\'' (enclosed '|' body) = none := between?_of_ne (by decide) _
    simp only [noLiteral, (between?_eq_some_iff _ _ body).mpr rfl]
  | reference reference =>
    have noLiteral : between? '\'' reference.text = none := between?_of_ne (by decide) _
    have noTemplate : between? '|' reference.text = none := between?_of_ne (by decide) _
    have whole := (wholeReference?_eq_some_iff reference.text _).mpr ⟨reference, rfl, rfl⟩
    simp only [noLiteral, noTemplate, whole]

/-- An expression is written in its form, unless that is not supported. -/
theorem isWritten_ofExpression (expression : String) :
    (Form.ofExpression expression).IsWritten (trim expression.toList) ∨
      Form.ofExpression expression = .unsupported := by
  rw [Form.ofExpression]
  generalize trim expression.toList = text
  -- The forms are tried in turn, and the first one that fits is the one it is written in.
  split
  · rename_i body found
    rw [(between?_eq_some_iff _ _ _).mp found]
    exact .inl (.literal body)
  · split
    · rename_i body found
      rw [(between?_eq_some_iff _ _ _).mp found]
      exact .inl (.template body)
    · split
      · rename_i name found
        obtain ⟨reference, rfl, rfl⟩ := (wholeReference?_eq_some_iff _ _).mp found
        exact .inl (.reference reference)
      · exact .inr rfl

/-- An expression is not supported exactly if it is written in none of the forms. -/
theorem ofExpression_eq_unsupported_iff (expression : String) :
    Form.ofExpression expression = .unsupported ↔
      ∀ form : Form, ¬ form.IsWritten (trim expression.toList) := by
  constructor
  · intro unsupported form written
    -- A text that were written in a form would have that form.
    rw [ofExpression_of_isWritten written] at unsupported
    subst unsupported
    cases written
  · intro none
    exact (isWritten_ofExpression expression).resolve_left (none _)

/-- The value of an expression is that of the form that it is written in. -/
theorem evaluateWith_of_isWritten {form : Form} {expression : String}
    (written : form.IsWritten (trim expression.toList)) (find : Find) :
    evaluateWith find expression = form.value find expression := by
  rw [evaluateWith, ofExpression_of_isWritten written]

/-- Between marks that are no white space there is nothing to trim. -/
theorem trim_enclosed {mark : Char} (sharp : isBlank mark = false) (body : List Char) :
    trim (enclosed mark body) = enclosed mark body :=
  trim_of_ends body sharp sharp

end Titling.Title.Expression
