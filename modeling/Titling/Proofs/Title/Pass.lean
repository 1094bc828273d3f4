import Titling.Proofs.Title.Sides

/-! What a pass answers: merged titles, or the title composed of what the sides contribute. -/

namespace Titling.Title

open Titling.Markup

/-- The element that a composed title becomes; it has no attribute. -/
def bareTitle (result : Node) : Element where
  tag := "title"
  children := result.spread

/-- The record of a pass: the titles of both sides, and the title composed of them. -/
def passRecord (content layout : Option Node) (result : Node) : Record where
  values := [(Record.contentKey, content), (Record.layoutKey, layout),
    (Record.resultKey, some result)]

/-- A title that has only inline texts. -/
def inlineTitle (texts : List String) : Element where
  tag := "title"
  children := texts.map .text

/-- A title with a pattern beside its inline texts. -/
def markedTitle (pattern : String) (texts : List String) : Element :=
  { inlineTitle texts with attributes := [("layout:title-pattern", pattern)] }

/-- The pattern is the one of the content title, or else the one of the layout title. -/
theorem pattern?_eq_or (settings : Settings) (layout content : Option Element) :
    pattern? settings layout content =
      (content.bind (·.get? settings.directive)).or (layout.bind (·.get? settings.directive)) := by
  rw [pattern?]
  cases content.bind (·.get? settings.directive) <;> rfl

/-- There is a pattern exactly where a title has the directive. -/
theorem isSome_pattern? (settings : Settings) (layout content : Option Element) :
    (pattern? settings layout content).isSome =
      (content.any (·.has settings.directive) || layout.any (·.has settings.directive)) := by
  -- An attribute is on a title exactly if it can be read from it.
  have present : ∀ title : Option Element,
      (title.bind (·.get? settings.directive)).isSome = title.any (·.has settings.directive) := by
    intro title
    cases title with
    | none => rfl
    | some title => exact Element.isSome_get? title settings.directive
  rw [pattern?_eq_or, Option.isSome_or, present, present]

/-- There is no pattern exactly where neither title has the directive. -/
theorem pattern?_eq_none_iff (settings : Settings) (layout content : Option Element) :
    pattern? settings layout content = none ↔
      content.any (·.has settings.directive) = false ∧
        layout.any (·.has settings.directive) = false := by
  rw [← Option.not_isSome_iff_eq_none, isSome_pattern?, Bool.not_eq_true, Bool.or_eq_false_iff]

section Combined

variable {settings : Settings} {evaluator : Evaluator} {merger : Merger}
  {layout content : Option Element} {context : Context}

/-- Titles with a pattern are combined into a placeholder, whatever the merger is. -/
theorem combine_of_pattern {pattern : String} (merger : Merger)
    (asked : pattern? settings layout content = some pattern) :
    combine settings merger layout content =
      some (placeholder settings pattern layout content) := by
  rw [combine, asked]

/-- A placeholder has the directive, so it is the element to be filled. -/
theorem deferred_of_pattern {pattern : String} (merger : Merger)
    (asked : pattern? settings layout content = some pattern) :
    (combine settings merger layout content).filter (·.has settings.directive) =
      some (placeholder settings pattern layout content) := by
  rw [combine_of_pattern merger asked]
  simp [Option.filter, has_directive_placeholder]

/-- A pass over titles without a directive only merges them. -/
theorem run_of_merged
    (merged : (combine settings merger layout content).filter (·.has settings.directive) = none) :
    run settings evaluator merger layout content context =
      { answer := .ok (combine settings merger layout content, {})
        notices := [combineNotice settings layout content] } := by
  simp only [run, merged]

/-- A pass over titles with a directive carries it out, or fails as that does. -/
theorem run_of_deferred {deferred : Element}
    (marked : (combine settings merger layout content).filter (·.has settings.directive) =
      some deferred) :
    run settings evaluator merger layout content context =
      match fill settings evaluator deferred
          (context.push (deferredSources settings deferred)) with
      | .error error =>
        { answer := .error error
          notices := [combineNotice settings layout content, .resolving] }
      | .ok filled =>
        { answer := .ok (some filled.element, Record.update {} filled.entries)
          notices := combineNotice settings layout content :: .resolving :: filled.notices } := by
  -- Carrying out the directive fails, or fills the element; both are read off the definition.
  cases carried : fill settings evaluator deferred
      (context.push (deferredSources settings deferred)) with
  | error error => simp only [run, marked, carried]
  | ok filled => simp only [run, marked, carried]

end Combined

/-- Carrying out the directive of a placeholder leaves the composed title and nothing else. -/
theorem fill_placeholder (settings : Settings) (evaluator : Evaluator) (pattern : String)
    (layout content : Option Element) (context : Context) :
    fill settings evaluator (placeholder settings pattern layout content) context = (do
      let contentTitle ← registered evaluator context contentName
      let layoutTitle ← registered evaluator context layoutName
      let result := compose (some pattern) contentTitle layoutTitle
      return {
        element := bareTitle result
        content := contentTitle
        layout := layoutTitle
        result := result
        notices := composeNotices (some pattern) ++ [.produced (some pattern) result] }) := by
  -- A placeholder is always a title, so the directive is never refused.
  have isTitle : isTitleTag (placeholder settings pattern layout content).tag = true :=
    show isTitleTag "title" = true by decide
  rw [fill, if_pos isTitle]
  simp only [placeholder_get?_directive, withoutDirective_placeholder]
  rfl

/--
A pass with a pattern evaluates both sides, the content first, and composes what they contribute.

The merger is not asked, so this holds for any.
-/
theorem run_of_pattern {settings : Settings} {layout content : Option Element} {pattern : String}
    (evaluator : Evaluator) (merger : Merger) (host : Context)
    (asked : pattern? settings layout content = some pattern) :
    (run settings evaluator merger layout content host).answer = (do
      let contentTitle ← contribution settings evaluator layout content host .content
      let layoutTitle ← contribution settings evaluator layout content host .layout
      let result := compose (some pattern) contentTitle layoutTitle
      return (some (bareTitle result), passRecord contentTitle layoutTitle result)) := by
  have deferred := deferred_of_pattern merger asked
  -- The context in which the placeholder is filled is that of the pass.
  have ofContent := registered_passContext settings evaluator layout content host .content
  have ofLayout := registered_passContext settings evaluator layout content host .layout
  simp only [Side.name, passContext] at ofContent ofLayout
  simp only [run, deferred, deferredSources_placeholder, fill_placeholder, ofContent, ofLayout]
  cases contribution settings evaluator layout content host .content with
  | error error => rfl
  | ok contentTitle =>
    cases contribution settings evaluator layout content host .layout with
    | error error => rfl
    | ok layoutTitle => rfl

section Contributions

variable {settings : Settings} {evaluator : Evaluator} {layout content : Option Element}
  {host : Context} {pattern : String} {side : Side}

/-- If both sides contribute, a pass with a pattern answers the title composed of the two. -/
theorem run_of_contributions {contentTitle layoutTitle : Option Node} (merger : Merger)
    (asked : pattern? settings layout content = some pattern)
    (first : contribution settings evaluator layout content host .content = .ok contentTitle)
    (second : contribution settings evaluator layout content host .layout = .ok layoutTitle) :
    (run settings evaluator merger layout content host).answer =
      .ok (some (bareTitle (compose (some pattern) contentTitle layoutTitle)),
        passRecord contentTitle layoutTitle
          (compose (some pattern) contentTitle layoutTitle)) := by
  rw [run_of_pattern evaluator merger host asked, first, second]
  rfl

/-- If a pass with a pattern has an answer, then both sides contribute. -/
theorem contributions_of_run {merger : Merger} {answer : Option Element × Record}
    (asked : pattern? settings layout content = some pattern)
    (answered : (run settings evaluator merger layout content host).answer = .ok answer) :
    ∃ contentTitle layoutTitle,
      contribution settings evaluator layout content host .content = .ok contentTitle ∧
      contribution settings evaluator layout content host .layout = .ok layoutTitle ∧
      answer = (some (bareTitle (compose (some pattern) contentTitle layoutTitle)),
        passRecord contentTitle layoutTitle
          (compose (some pattern) contentTitle layoutTitle)) := by
  rw [run_of_pattern evaluator merger host asked] at answered
  -- Each step is taken apart in turn; an error in one of them is no answer.
  cases first : contribution settings evaluator layout content host .content with
  | error error => simp [first, Bind.bind, Except.bind] at answered
  | ok contentTitle =>
    cases second : contribution settings evaluator layout content host .layout with
    | error error => simp [first, second, Bind.bind, Except.bind] at answered
    | ok layoutTitle =>
      simp [first, second, Bind.bind, Except.bind, Pure.pure, Except.pure] at answered
      exact ⟨contentTitle, layoutTitle, rfl, rfl, answered.symm⟩

/-- What both sides contribute is recorded under their keys. -/
theorem record_of_contributions {own other : Option Node} (merger : Merger)
    (asked : (pattern? settings layout content).isSome)
    (first : contribution settings evaluator layout content host side = .ok own)
    (second : contribution settings evaluator layout content host side.other = .ok other) :
    ∃ element record,
      (run settings evaluator merger layout content host).answer = .ok (element, record) ∧
      record.get? side.key = some own := by
  -- The record does not tell which side is asked about first.
  obtain ⟨pattern, known⟩ := Option.isSome_iff_exists.mp asked
  cases side with
  | content => exact ⟨_, _, run_of_contributions merger known first second, rfl⟩
  | layout => exact ⟨_, _, run_of_contributions merger known second first, rfl⟩

/-- A side that fails leaves the pass without an answer. -/
theorem run_of_failed_contribution {error : Error} (merger : Merger)
    (asked : (pattern? settings layout content).isSome)
    (failed : contribution settings evaluator layout content host side = .error error)
    (answer : Option Element × Record) :
    (run settings evaluator merger layout content host).answer ≠ .ok answer := by
  -- An answer would need both contributions, and one of them failed.
  intro answered
  obtain ⟨pattern, known⟩ := Option.isSome_iff_exists.mp asked
  obtain ⟨contentTitle, layoutTitle, first, second, -⟩ := contributions_of_run known answered
  cases side with
  | content => simp [first] at failed
  | layout => simp [second] at failed

end Contributions

/-- Titles without a pattern are merged, and there is no directive on what comes of them. -/
theorem settled_of_no_pattern {settings : Settings} {layout content : Option Element}
    (plain : pattern? settings layout content = none) :
    (combine settings Element.merge layout content).filter (·.has settings.directive) = none := by
  rw [combine, plain]
  cases merged : Element.merge layout content with
  | none => rfl
  | some element =>
    -- The merged title has the directive only if one of the two has it.
    obtain ⟨contentBare, layoutBare⟩ := (pattern?_eq_none_iff _ _ _).mp plain
    have bare : element.has settings.directive = false :=
      Element.has_false_of_merge merged contentBare layoutBare
    simp [Option.filter, bare]

/-- A pass without a pattern answers the merged titles, and records nothing. -/
theorem run_of_no_pattern {settings : Settings} {layout content : Option Element}
    (evaluator : Evaluator) (host : Context) (plain : pattern? settings layout content = none) :
    (run settings evaluator Element.merge layout content host).answer =
      .ok (Element.merge layout content, {}) := by
  rw [run_of_merged (settled_of_no_pattern plain), combine, plain]

end Titling.Title
