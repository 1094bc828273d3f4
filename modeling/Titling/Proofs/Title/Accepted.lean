import Titling.Proofs.Title.Template

/-! Which expressions have a value: the documented ones, and literals that close too early. -/

namespace Titling.Title.Expression

open Titling.Text

/-- Tells that each quote in the body of a literal has a backslash right in front of it. -/
def IsEscaped (body : List Char) : Prop :=
  ∀ front rest, body = front ++ '\'' :: rest → front.getLast? = some '\\'

/--
Tells that a text is an expression as it is documented, of which all variables are known: a literal
with a backslash in front of the quotes in it, a template, or a reference. A variable is known even
if its value has no text.
-/
inductive IsDocumented (context : Context) : List Char → Prop
  | literal {body : List Char} (escaped : IsEscaped body) :
    IsDocumented context (enclosed '\'' body)
  | template {body : List Char}
    (known : ∀ reference : Reference, reference.text <:+: body →
      context.string? reference.name ≠ .ok none) : IsDocumented context (enclosed '|' body)
  | reference {reference : Reference} (known : context.string? reference.name ≠ .ok none) :
    IsDocumented context reference.text

/--
Tells that a text is a template or a reference of which the leftmost variable without a text is one
whose value is too long, rather than an unknown one.
-/
inductive IsOverlong (context : Context) : List Char → Prop
  | template {parts : Parts Reference} {failed : Reference} (free : parts.IsFree Reference.text)
    (leftmost : IsLeftmostFailed context.string? parts.occurrences failed)
    (overlong : context.string? failed.name = .error .overlongInteger) :
    IsOverlong context (enclosed '|' (parts.written Reference.text))
  | reference {reference : Reference}
    (overlong : context.string? reference.name = .error .overlongInteger) :
    IsOverlong context reference.text

/-- Tells that a text begins and ends with a quote, and has another one that closes it before. -/
def ClosesEarly (text : List Char) : Prop :=
  ∃ body, text = enclosed '\'' body ∧ ¬ IsEscaped body

/-- What stands between marks is known from the text. -/
theorem enclosed_inj {mark : Char} {body other : List Char} :
    enclosed mark body = enclosed mark other ↔ body = other := by
  simp [enclosed]

/-- A documented expression is written in one of the forms. -/
theorem IsDocumented.exists_isWritten {context : Context} {text : List Char}
    (documented : IsDocumented context text) : ∃ form : Form, form.IsWritten text := by
  cases documented with
  | literal _ => exact ⟨_, .literal _⟩
  | template _ => exact ⟨_, .template _⟩
  | reference _ => exact ⟨_, .reference _⟩

/-- A text between quotes is documented if the quotes in it are escaped. -/
theorem isDocumented_literal_iff (context : Context) (body : List Char) :
    IsDocumented context (enclosed '\'' body) ↔ IsEscaped body := by
  -- Of the three forms only a literal is written between quotes.
  refine ⟨fun documented => ?_, .literal⟩
  generalize same : enclosed '\'' body = text at documented
  cases documented with
  | literal escaped => rwa [enclosed_inj.mp same]
  | template _ => simp [enclosed] at same
  | reference _ => simp [enclosed, Reference.text] at same

/-- A text between bars is documented if the variables in it are known. -/
theorem isDocumented_template_iff (context : Context) (body : List Char) :
    IsDocumented context (enclosed '|' body) ↔
      ∀ reference : Reference, reference.text <:+: body →
        context.string? reference.name ≠ .ok none := by
  refine ⟨fun documented => ?_, .template⟩
  generalize same : enclosed '|' body = text at documented
  cases documented with
  | literal _ => simp [enclosed] at same
  | template known => rwa [enclosed_inj.mp same]
  | reference _ => simp [enclosed, Reference.text] at same

/-- A reference is documented if its variable is known. -/
theorem isDocumented_reference_iff (context : Context) (reference : Reference) :
    IsDocumented context reference.text ↔ context.string? reference.name ≠ .ok none := by
  refine ⟨fun documented => ?_, .reference⟩
  generalize same : reference.text = text at documented
  -- A template and a literal begin with other characters, and a reference is known by its text.
  cases documented with
  | literal _ => simp [enclosed, Reference.text] at same
  | template _ => simp [enclosed, Reference.text] at same
  | reference known => rwa [Reference.text_injective same]

/-- Only what stands between quotes can close early. -/
theorem not_closesEarly {first : Char} (other : first ≠ '\'') (rest : List Char) :
    ¬ ClosesEarly (first :: rest) := by
  rintro ⟨body, same, -⟩
  exact other (List.cons.inj same).1

/-- An overlong expression is written in one of the forms. -/
theorem IsOverlong.exists_isWritten {context : Context} {text : List Char}
    (overlong : IsOverlong context text) : ∃ form : Form, form.IsWritten text := by
  cases overlong with
  | template _ _ _ => exact ⟨_, .template _⟩
  | reference _ => exact ⟨_, .reference _⟩

/-- A text between quotes is not overlong, since it has no variables. -/
theorem not_isOverlong_literal (context : Context) (body : List Char) :
    ¬ IsOverlong context (enclosed '\'' body) := by
  intro overlong
  -- Neither of the two forms that have variables begins with a quote.
  generalize same : enclosed '\'' body = text at overlong
  cases overlong with
  | template _ _ _ => simp [enclosed] at same
  | reference _ => simp [enclosed, Reference.text] at same

/-- A template is overlong if the leftmost of its variables without a text is. -/
theorem isOverlong_template_iff (context : Context) {parts : Parts Reference}
    (free : parts.IsFree Reference.text) :
    IsOverlong context (enclosed '|' (parts.written Reference.text)) ↔
      ∃ failed, IsLeftmostFailed context.string? parts.occurrences failed ∧
        context.string? failed.name = .error .overlongInteger := by
  constructor
  · intro overlong
    generalize same : enclosed '|' (parts.written Reference.text) = text at overlong
    cases overlong with
    | @template other failed free' leftmost overlong =>
      -- The body is made of references and text in one way only.
      rw [Reference.isMarked.parts_unique free free' (enclosed_inj.mp same)]
      exact ⟨failed, leftmost, overlong⟩
    | reference _ => simp [enclosed, Reference.text] at same
  · rintro ⟨failed, leftmost, overlong⟩
    exact .template free leftmost overlong

/-- A reference is overlong if its variable is. -/
theorem isOverlong_reference_iff (context : Context) (reference : Reference) :
    IsOverlong context reference.text ↔
      context.string? reference.name = .error .overlongInteger := by
  refine ⟨fun overlong => ?_, .reference⟩
  generalize same : reference.text = text at overlong
  cases overlong with
  | template _ _ _ => simp [enclosed, Reference.text] at same
  | reference overlong => rwa [Reference.text_injective same]

/-- Of the references in a text one at most is the leftmost one without a value. -/
theorem IsLeftmostFailed.unique {find : Find} {references : List Reference}
    {first second : Reference} (one : IsLeftmostFailed find references first)
    (other : IsLeftmostFailed find references second) : first = second := by
  obtain ⟨front, rest, split, valued, without⟩ := one
  obtain ⟨front', rest', split', valued', without'⟩ := other
  rw [split, List.append_eq_append_iff] at split'
  -- Were one of them farther to the left, it would stand among those with values.
  rcases split' with ⟨between, rfl, same⟩ | ⟨between, rfl, same⟩
  · cases between with
    | nil => exact (List.cons.inj same).1
    | cons head between =>
      obtain ⟨value, found⟩ := valued' head (by simp)
      exact absurd found ((List.cons.inj same).1 ▸ without value)
  · cases between with
    | nil => exact (List.cons.inj same).1.symm
    | cons head between =>
      obtain ⟨value, found⟩ := valued head (by simp)
      exact absurd found ((List.cons.inj same).1 ▸ without' value)

/-- A leftmost reference without a value is none where all have values. -/
theorem not_leftmostFailed_of_valued {find : Find} {references : List Reference}
    (valued : ∀ reference ∈ references, ∃ value, find reference.name = .ok (some value))
    (failed : Reference) : ¬ IsLeftmostFailed find references failed := by
  -- The reference would be one of those that have values.
  rintro ⟨front, rest, rfl, -, without⟩
  obtain ⟨value, found⟩ := valued failed (by simp)
  exact without value found

/-- How the evaluation of an expression ends, and what its text is then. -/
inductive Ends (context : Context) (expression : String) (text : List Char) : Prop
  | value {value : String} (evaluated : evaluate expression context = .ok value)
    (accepted : IsDocumented context text ∧ ¬ IsOverlong context text ∨ ClosesEarly text)
  | evaluation {reason : Reason}
    (evaluated : evaluate expression context = .error (.evaluation ⟨expression, reason⟩))
    (refused : ¬ IsDocumented context text ∧ ¬ ClosesEarly text ∧ ¬ IsOverlong context text)
  | overlong (evaluated : evaluate expression context = .error .overlongInteger)
    (overlong : IsOverlong context text)

/-- The values that are found, with no text for a variable that has none. -/
def valuesOf (find : Find) (name : String) : String :=
  match find name with
  | .ok (some value) => value
  | _ => ""

/-- A value that is found is one of the values. -/
theorem found_valuesOf {find : Find} {name : String}
    (valued : ∃ value, find name = .ok (some value)) :
    find name = .ok (some (valuesOf find name)) := by
  obtain ⟨value, found⟩ := valued
  simp [valuesOf, found]

/-- A template ends as the leftmost of its variables without a value makes it, or with a value. -/
theorem ends_template {expression : String} {body : List Char}
    (written : (Form.template body).IsWritten (trim expression.toList)) (context : Context) :
    Ends context expression (enclosed '|' body) := by
  -- The body is made of parts, and its value is what they expand to.
  obtain ⟨parts, free, rfl, scanned⟩ := Reference.finds.exists_parts Reference.isMarked body
  have evaluated : evaluate expression context =
      (expand context.string? expression (parts.pieces Reference.name)).map String.ofList := by
    rw [evaluate, evaluateWith_of_isWritten written, Form.value, scanned]
    cases expand context.string? expression (parts.pieces Reference.name) <;> rfl
  have noLiteral : ¬ ClosesEarly (enclosed '|' (parts.written Reference.text)) :=
    not_closesEarly (by decide) _
  have documented := isDocumented_template_iff context (parts.written Reference.text)
  simp only [Reference.isMarked.infix_written_iff free] at documented
  rcases valued_or_leftmostFailed context.string? parts.occurrences with valued | ⟨failed, leftmost⟩
  · -- All variables have values, so that none is unknown, and none is too long.
    have bound : ∀ reference ∈ parts.occurrences, context.string? reference.name =
        .ok (some (valuesOf context.string? reference.name)) :=
      fun reference inside => found_valuesOf (valued reference inside)
    rw [expand_of_valued bound] at evaluated
    refine .value evaluated (.inl ⟨documented.mpr fun reference inside => ?_, ?_⟩)
    · simp [bound reference inside]
    · rw [isOverlong_template_iff context free]
      rintro ⟨failed, leftmost, -⟩
      exact not_leftmostFailed_of_valued valued failed leftmost
  · rcases leftmost.unknown_or_overlong with unknown | overlong
    · rw [expand_of_leftmostFailed leftmost (lookup_of_unknown unknown)] at evaluated
      refine .evaluation evaluated ⟨fun known => ?_, noLiteral, ?_⟩
      · obtain ⟨front, rest, split, -⟩ := leftmost
        exact documented.mp known failed (by simp [split]) unknown
      · rw [isOverlong_template_iff context free]
        rintro ⟨other, leftmost', overlong⟩
        -- There is one leftmost variable without a value, and that is unknown.
        rw [leftmost'.unique leftmost, unknown] at overlong
        cases overlong
    · rw [expand_of_leftmostFailed leftmost (lookup_of_overlong overlong)] at evaluated
      exact .overlong evaluated (.template free leftmost overlong)

/-- A reference ends as the look-up of its variable does. -/
theorem ends_reference {expression : String} {reference : Reference}
    (written : (Form.reference reference.name).IsWritten (trim expression.toList))
    (context : Context) : Ends context expression reference.text := by
  have evaluated : evaluate expression context =
      lookup context.string? expression reference.name := by
    rw [evaluate, evaluateWith_of_isWritten written, Form.value]
  have noLiteral : ¬ ClosesEarly reference.text := not_closesEarly (by decide) _
  have documented := isDocumented_reference_iff context reference
  have tooLong := isOverlong_reference_iff context reference
  -- The look-up fails, finds nothing or finds a text, and each is one of the three endings.
  rcases found : context.string? reference.name with ⟨⟨⟩⟩ | (_ | value)
  · exact .overlong (evaluated.trans (lookup_of_overlong found)) (tooLong.mpr found)
  · refine .evaluation (evaluated.trans (lookup_of_unknown found)) ⟨?_, noLiteral, ?_⟩
    · exact fun known => documented.mp known found
    · simp [tooLong, found]
  · refine .value (evaluated.trans (lookup_of_valued found)) (.inl ⟨?_, ?_⟩)
    · simp [documented, found]
    · simp [tooLong, found]

/-- An evaluation ends as the text of the expression says, without the white space around it. -/
theorem ends (context : Context) (expression : String) :
    Ends context expression (trim expression.toList) := by
  -- The text has one of the forms, or none of them.
  rcases isWritten_ofExpression expression with written | unsupported
  · have evaluated := evaluateWith_of_isWritten written context.string?
    generalize form : Form.ofExpression expression = shape at written evaluated
    generalize text : trim expression.toList = chars at written ⊢
    cases written with
    | literal body =>
      -- A literal always has a value, whatever stands between its quotes.
      refine .value evaluated ?_
      rw [isDocumented_literal_iff]
      by_cases escaped : IsEscaped body
      · exact .inl ⟨escaped, not_isOverlong_literal context body⟩
      · exact .inr ⟨body, rfl, escaped⟩
    | template body => exact ends_template (text ▸ .template body) context
    | reference reference => exact ends_reference (text ▸ .reference reference) context
  · -- What has none of the forms has no value, and is neither documented nor anything else.
    have none := (ofExpression_eq_unsupported_iff expression).mp unsupported
    have evaluated : evaluate expression context =
        .error (.evaluation ⟨expression, .unsupportedForm⟩) := by
      rw [evaluate, evaluateWith, unsupported, Form.value]
    refine .evaluation evaluated ⟨fun documented => ?_, ?_, fun overlong => ?_⟩
    · obtain ⟨form, written⟩ := documented.exists_isWritten
      exact none form written
    · rintro ⟨body, same, -⟩
      exact none (.literal body) (same ▸ .literal body)
    · obtain ⟨form, written⟩ := overlong.exists_isWritten
      exact none form written

/-- An evaluation fails on an integer only where a variable stands for one that is too long. -/
theorem exists_overlong_of_evaluate {expression : String} {context : Context}
    (failed : evaluate expression context = .error .overlongInteger) :
    ∃ name, context.string? name = .error .overlongInteger := by
  -- The ending fits only one of the three, and there the text tells of such a variable.
  cases ends context expression with
  | value evaluated _ => simp [evaluated] at failed
  | evaluation evaluated _ => simp [evaluated] at failed
  | overlong _ overlong =>
    generalize trim expression.toList = text at overlong
    cases overlong with
    | template _ _ found => exact ⟨_, found⟩
    | reference found => exact ⟨_, found⟩

/-- A literal that closes early is not documented. -/
theorem ClosesEarly.not_isDocumented {text : List Char} (early : ClosesEarly text)
    (context : Context) : ¬ IsDocumented context text := by
  -- The forms of documented expressions do not overlap, so the bare quote cannot be excused.
  obtain ⟨body, rfl, bare⟩ := early
  rwa [isDocumented_literal_iff]

/-- A literal that closes early has no variables, so that none of them is too long. -/
theorem ClosesEarly.not_isOverlong {text : List Char} (early : ClosesEarly text)
    (context : Context) : ¬ IsOverlong context text := by
  obtain ⟨body, rfl, -⟩ := early
  exact not_isOverlong_literal context body

/--
An expression has a value as documented, except that a literal may close early, and that the value
of a variable may be too long to be written.

It has a value if it is a documented expression of which all variables are known, or begins and ends
with a quote. If the leftmost variable without a text is one whose value is too long, that is passed
on as it is. All else is an error that names the expression as it stands. So what is documented is
what has a value exactly for those expressions that are no literals with a bare quote in them, nor
documented ones with such a variable.
-/
theorem accepts_documented_iff (expression : String) (context : Context) :
    ((∃ value, evaluate expression context = .ok value) ↔
      IsDocumented context (trim expression.toList) ∧
          ¬ IsOverlong context (trim expression.toList) ∨
        ClosesEarly (trim expression.toList)) ∧
    ((∃ reason, evaluate expression context = .error (.evaluation ⟨expression, reason⟩)) ↔
      ¬ IsDocumented context (trim expression.toList) ∧
        ¬ ClosesEarly (trim expression.toList) ∧ ¬ IsOverlong context (trim expression.toList)) ∧
    (evaluate expression context = .error .overlongInteger ↔
      IsOverlong context (trim expression.toList)) ∧
    (((∃ value, evaluate expression context = .ok value) ↔
      IsDocumented context (trim expression.toList)) ↔
        ¬ ClosesEarly (trim expression.toList) ∧
          ¬ (IsDocumented context (trim expression.toList) ∧
            IsOverlong context (trim expression.toList))) := by
  have undocumented : ClosesEarly (trim expression.toList) →
      ¬ IsDocumented context (trim expression.toList) :=
    fun early => early.not_isDocumented context
  have short : ClosesEarly (trim expression.toList) →
      ¬ IsOverlong context (trim expression.toList) :=
    fun early => early.not_isOverlong context
  -- In each of the ways in which an evaluation may end it is known what the text is.
  cases ends context expression with
  | value evaluated accepted =>
    simp only [evaluated, reduceCtorEq]
    grind
  | evaluation evaluated refused =>
    simp only [evaluated, reduceCtorEq]
    grind
  | overlong evaluated overlong =>
    simp only [evaluated, reduceCtorEq]
    grind

/-- Two literals with an operator between them are not documented, and yet have a value. -/
theorem operator_between_literals_accepted :
    ¬ ((∃ value, evaluate "'a' + 'b'" {} = .ok value) ↔
      IsDocumented {} (trim "'a' + 'b'".toList)) := by
  have text : trim "'a' + 'b'".toList = enclosed '\'' "a' + 'b".toList := by decide +kernel
  rw [text, isDocumented_literal_iff]
  intro accepted
  have escaped := accepted.mp ⟨"a' + 'b", by decide +kernel⟩
  -- The first quote in the body has no backslash in front of it, but a letter.
  have bare := escaped ['a'] " + 'b".toList (by decide)
  contradiction

end Titling.Title.Expression
