import Titling.Proofs.Text.Occurrence
import Titling.Title.Expression

/-! The variables of expressions: no others are read, and none is named as titles are. -/

namespace Titling.Title.Expression

open Titling.Text

/-- The variables that a form refers to. -/
def Form.references : Form → List String
  | .literal _ => []
  | .template body => (Piece.split reference? body).filterMap fun
    | .plain _ => none
    | .found name => some name
  | .reference name => [name]
  | .unsupported => []

/-- The variables that an expression refers to. -/
def references (expression : String) : List String :=
  (Form.ofExpression expression).references

section Congruence

variable {first second : Find} {expression : String}

/-- A variable is looked up by its text alone. -/
theorem lookup_congr {name : String} (agree : first name = second name) :
    lookup first expression name = lookup second expression name := by
  rw [lookup, lookup, agree]

/-- What pieces expand to depends on the variables among them. -/
theorem expand_congr {pieces : List (Piece String)}
    (agree : ∀ name, .found name ∈ pieces → first name = second name) :
    expand first expression pieces = expand second expression pieces := by
  -- Of the pieces only those that were found are looked up.
  induction pieces with
  | nil => rfl
  | cons piece rest ih =>
    have later := ih fun name known => agree name (List.mem_cons_of_mem _ known)
    cases piece with
    | plain char => simp only [expand, later]
    | found name => simp only [expand, later, lookup_congr (agree name List.mem_cons_self)]

/-- The value of a form depends on the variables that it refers to. -/
theorem Form.value_congr {form : Form}
    (agree : ∀ name ∈ form.references, first name = second name) :
    form.value first expression = form.value second expression := by
  -- Only a template and a reference have variables.
  cases form with
  | literal body => rfl
  | template body =>
    have expanded : expand first expression (Piece.split reference? body) =
        expand second expression (Piece.split reference? body) := by
      apply expand_congr
      intro name known
      exact agree name (List.mem_filterMap.mpr ⟨_, known, rfl⟩)
    simp only [Form.value, expanded]
  | reference name => exact lookup_congr (agree name List.mem_cons_self)
  | unsupported => rfl

/-- The value of an expression depends on its variables, and on nothing else in a context. -/
theorem evaluate_congr {first second : Context}
    (agree : ∀ name ∈ references expression, first.string? name = second.string? name) :
    evaluate expression first = evaluate expression second :=
  Form.value_congr agree

end Congruence

/-- What the name of a variable may begin with, it may also go on with. -/
theorem isNameChar_of_isNameStart {char : Char} (start : isNameStart char = true) :
    isNameChar char = true := by
  rw [isNameStart, Bool.or_eq_true] at start
  rw [isNameChar, isWord, Char.isAlphanum]
  rcases start with letter | underscore
  · simp [letter]
  · simp [underscore]

/-- A leading name has no characters but those of names. -/
theorem isNameChar_of_mem_leadingName {char : Char} {text : List Char}
    (inside : char ∈ leadingName text) : isNameChar char = true := by
  -- The first character begins a name, and the others go on with it.
  cases text with
  | nil => simp [leadingName] at inside
  | cons first rest =>
    rw [leadingName] at inside
    split at inside
    · rename_i start
      rcases List.mem_cons.mp inside with rfl | later
      · exact isNameChar_of_isNameStart start
      · exact List.all_eq_true.mp List.all_takeWhile char later
    · simp at inside

/-- A reference is to a name that has no characters but those of names. -/
theorem isNameChar_of_reference? {text : List Char} {name : String} {extra : Nat}
    (found : reference? text = some (name, extra)) :
    ∀ char ∈ name.toList, isNameChar char = true := by
  -- What was found is the leading name behind the brace, of at least one character.
  unfold reference? at found
  split at found
  · rename_i rest
    dsimp only at found
    split at found
    · obtain ⟨rfl, -⟩ := Prod.mk.inj (Option.some.inj found)
      intro char inside
      rw [String.toList_ofList] at inside
      exact isNameChar_of_mem_leadingName inside
    · simp at found
  · simp at found

/-- An expression is a reference only if a reference is found where its text begins. -/
theorem exists_reference?_of_form {expression name : String}
    (form : Form.ofExpression expression = .reference name) :
    ∃ text extra, reference? text = some (name, extra) := by
  -- Neither a literal nor a template is a reference, and a reference is a whole text.
  unfold Form.ofExpression at form
  dsimp only at form
  split at form
  · simp at form
  · split at form
    · simp at form
    · split at form
      · rename_i other whole
        obtain rfl := Form.reference.inj form
        unfold wholeReference? at whole
        split at whole
        · rename_i found extra hit
          split at whole
          · rw [Option.some.injEq] at whole
            exact ⟨_, extra, whole ▸ hit⟩
          · simp at whole
        · simp at whole
      · simp at form

/-- A variable has no characters but those of names. -/
theorem isNameChar_of_mem_references {expression name : String}
    (known : name ∈ references expression) : ∀ char ∈ name.toList, isNameChar char = true := by
  -- In a template as in a reference, the name was found behind a dollar sign.
  have found : ∃ text extra, reference? text = some (name, extra) := by
    unfold references at known
    cases form : Form.ofExpression expression with
    | literal body => simp [form, Form.references] at known
    | unsupported => simp [form, Form.references] at known
    | reference other =>
      rw [form, Form.references, List.mem_singleton] at known
      exact known ▸ exists_reference?_of_form form
    | template body =>
      rw [form, Form.references, List.mem_filterMap] at known
      obtain ⟨piece, inside, shown⟩ := known
      cases piece with
      | plain char => simp at shown
      | found other => exact exists_match_of_mem_split (Option.some.inj shown ▸ inside)
  obtain ⟨text, extra, hit⟩ := found
  exact isNameChar_of_reference? hit

end Titling.Title.Expression
