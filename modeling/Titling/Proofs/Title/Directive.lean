import Titling.Title.Directive

/-! Carrying out a directive: which failure comes first, and what a success is made of. -/

namespace Titling.Title

open Titling.Markup

/-- A tag is that of a title if it is so in small letters. -/
theorem isTitleTag_iff (tag : String) : isTitleTag tag = true ↔ tag.toLower = "title" := by
  -- Making letters small is done for each character by itself.
  have lowered : tag.toLower.toList = tag.toList.map Char.toLower := String.toList_map
  rw [isTitleTag, beq_iff_eq, ← String.toList_inj, lowered]

/-- What an element becomes when its directive is carried out with two titles. -/
def filledWith (settings : Settings) (element : Element) (content layout : Option Node) : Filled :=
  let pattern := element.get? settings.directive
  let result := compose pattern content layout
  { element := (withoutDirective settings element).withChildren result.spread
    content := content
    layout := layout
    result := result
    notices := composeNotices pattern ++ [.produced pattern result] }

section Fill

variable {settings : Settings} {evaluator : Evaluator} {element : Element} {context : Context}

/-- On a title the content title is looked for first, and then the layout title. -/
theorem fill_of_title (host : element.tag.toLower = "title") :
    fill settings evaluator element context = (do
      let content ← registered evaluator context contentName
      let layout ← registered evaluator context layoutName
      return filledWith settings element content layout) := by
  rw [fill, if_pos ((isTitleTag_iff _).mpr host)]
  rfl

/-- On any other element nothing is looked for. -/
theorem fill_of_other (other : element.tag.toLower ≠ "title") :
    fill settings evaluator element context =
      .error (.wrongHost element.tag settings.directive) := by
  rw [fill, if_neg fun title => other ((isTitleTag_iff _).mp title)]

/-- If the content title fails, so does the title, whatever the layout title is. -/
theorem fill_of_failed_content {error : Error} (host : element.tag.toLower = "title")
    (failed : registered evaluator context contentName = .error error) :
    fill settings evaluator element context = .error error := by
  rw [fill_of_title host, failed]
  rfl

/-- If the content title is there, a failure of the layout title is that of the title. -/
theorem fill_of_failed_layout {content : Option Node} {error : Error}
    (host : element.tag.toLower = "title")
    (first : registered evaluator context contentName = .ok content)
    (failed : registered evaluator context layoutName = .error error) :
    fill settings evaluator element context = .error error := by
  rw [fill_of_title host, first, failed]
  rfl

/-- If neither title fails, the element is filled with both. -/
theorem fill_of_registered {content layout : Option Node} (host : element.tag.toLower = "title")
    (first : registered evaluator context contentName = .ok content)
    (second : registered evaluator context layoutName = .ok layout) :
    fill settings evaluator element context = .ok (filledWith settings element content layout) := by
  rw [fill_of_title host, first, second]
  rfl

/--
Contexts in which the same titles are registered make no difference; that of the layout counts only
if that of the content does not fail.
-/
theorem fill_congr {other : Context}
    (first : registered evaluator context contentName = registered evaluator other contentName)
    (second : ∀ title, registered evaluator context contentName = .ok title →
      registered evaluator context layoutName = registered evaluator other layoutName) :
    fill settings evaluator element context = fill settings evaluator element other := by
  -- The layout title is not looked for where the content title fails, so it may differ there.
  by_cases host : element.tag.toLower = "title"
  · cases found : registered evaluator context contentName with
    | error error =>
      rw [fill_of_failed_content host found, fill_of_failed_content host (first ▸ found)]
    | ok title => rw [fill_of_title host, fill_of_title host, ← first, found, second title found]
  · rw [fill_of_other host, fill_of_other host]

/-- A directive is carried out exactly on a title of which neither part fails. -/
theorem fill_eq_ok_iff (filled : Filled) :
    fill settings evaluator element context = .ok filled ↔
      element.tag.toLower = "title" ∧
      registered evaluator context contentName = .ok filled.content ∧
      registered evaluator context layoutName = .ok filled.layout ∧
      filled = filledWith settings element filled.content filled.layout := by
  constructor
  · intro carried
    by_cases host : element.tag.toLower = "title"
    · -- The failures of the two titles are ruled out in the order in which they would come.
      cases first : registered evaluator context contentName with
      | error error => simp [fill_of_failed_content host first] at carried
      | ok content =>
        cases second : registered evaluator context layoutName with
        | error error => simp [fill_of_failed_layout host first second] at carried
        | ok layout =>
          rw [fill_of_registered host first second, Except.ok.injEq] at carried
          subst carried
          exact ⟨host, rfl, rfl, rfl⟩
    · simp [fill_of_other host] at carried
  · rintro ⟨host, first, second, same⟩
    rw [fill_of_registered host first second, ← same]

/-- The error of a directive is the first of three: a wrong element, the content, the layout. -/
theorem fill_eq_error_iff (error : Error) :
    fill settings evaluator element context = .error error ↔
      (element.tag.toLower ≠ "title" ∧ error = .wrongHost element.tag settings.directive) ∨
      (element.tag.toLower = "title" ∧ registered evaluator context contentName = .error error) ∨
      (element.tag.toLower = "title" ∧
        (∃ content, registered evaluator context contentName = .ok content) ∧
        registered evaluator context layoutName = .error error) := by
  constructor
  · intro failed
    by_cases host : element.tag.toLower = "title"
    · -- Only where the content title does not fail is the layout title looked for.
      cases first : registered evaluator context contentName with
      | error cause =>
        rw [fill_of_failed_content host first, Except.error.injEq] at failed
        exact .inr (.inl ⟨host, congrArg Except.error failed⟩)
      | ok content =>
        cases second : registered evaluator context layoutName with
        | error cause =>
          rw [fill_of_failed_layout host first second, Except.error.injEq] at failed
          exact .inr (.inr ⟨host, ⟨content, rfl⟩, congrArg Except.error failed⟩)
        | ok layout => simp [fill_of_registered host first second] at failed
    · rw [fill_of_other host, Except.error.injEq] at failed
      exact .inl ⟨host, failed.symm⟩
  · rintro (⟨other, rfl⟩ | ⟨host, failed⟩ | ⟨host, ⟨content, first⟩, failed⟩)
    · exact fill_of_other other
    · exact fill_of_failed_content host failed
    · exact fill_of_failed_layout host first failed

/-- A source resolves alike in contexts in which its expression is evaluated alike. -/
theorem resolve_congr {source : Source} {other : Context}
    (same : ∀ expression, source.text = some expression →
      evaluator expression context = evaluator expression other) :
    source.resolve evaluator context = source.resolve evaluator other := by
  -- Without an expression the context has no part in what is resolved.
  unfold Source.resolve
  cases written : source.text with
  | none => rfl
  | some expression => simp only [same expression written]

/-- A source whose expression has a value resolves to the text that the value stands for. -/
theorem resolve_of_evaluated {source : Source} {expression value : String}
    (written : source.text = some expression)
    (evaluated : evaluator expression context = .ok value) :
    source.resolve evaluator context = (do
      let text ← evaluatedText source.escape value
      return some (.text text)) := by
  simp only [Source.resolve, written, evaluated]
  rfl

/-- A source whose expression has no value fails as the evaluator does. -/
theorem resolve_of_unevaluated {source : Source} {expression : String} {cause : Failure}
    (written : source.text = some expression)
    (failed : evaluator expression context = .error cause) :
    source.resolve evaluator context = .error (.ofFailure cause) := by
  simp only [Source.resolve, written, failed]
  rfl

/-- A source fails as the evaluator does, or because the value that it gives cannot be read. -/
theorem error_of_resolve {source : Source} {error : Error}
    (failed : source.resolve evaluator context = .error error) :
    (∃ cause, error = .ofFailure cause) ∨ error = .overlongReference := by
  cases written : source.text with
  | none => simp [Source.resolve, written] at failed
  | some expression =>
    cases evaluated : evaluator expression context with
    | error cause =>
      rw [resolve_of_unevaluated written evaluated, Except.error.injEq] at failed
      exact .inl ⟨cause, failed.symm⟩
    | ok value =>
      rw [resolve_of_evaluated written evaluated, evaluatedText] at failed
      -- The value has a text unless it cannot be decoded.
      cases decoded : CharacterReference.decode? value with
      | none =>
        rw [decoded] at failed
        exact .inr (Except.error.inj failed).symm
      | some plain =>
        rw [decoded] at failed
        cases failed

/-- A registered title fails as its source does. -/
theorem error_of_registered {name : String} {error : Error}
    (failed : registered evaluator context name = .error error) :
    (∃ cause, error = .ofFailure cause) ∨ error = .overlongReference := by
  -- There is a source to fail only where one is registered.
  unfold registered at failed
  cases known : context.source? name with
  | none => simp [known] at failed
  | some source =>
    rw [known] at failed
    exact error_of_resolve failed

/-- A directive is refused exactly on other elements than titles, whatever could be evaluated. -/
theorem fill_eq_wrongHost_iff (tag directive : String) :
    fill settings evaluator element context = .error (.wrongHost tag directive) ↔
      element.tag.toLower ≠ "title" ∧ tag = element.tag ∧ directive = settings.directive := by
  -- Neither of the two titles fails in this way.
  have other : ∀ name, registered evaluator context name ≠ .error (.wrongHost tag directive) := by
    intro name failed
    rcases error_of_registered failed with ⟨cause, same⟩ | same
    · cases cause <;> cases same
    · cases same
  rw [fill_eq_error_iff]
  simp [other]

end Fill

end Titling.Title
