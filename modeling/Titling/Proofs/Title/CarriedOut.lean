import Titling.Proofs.Title.Directive
import Titling.Proofs.Title.Pass

/-! Directives are carried out wherever a pass finds them: none is left on an answered title. -/

namespace Titling.Title

open Titling.Markup

/-- The attributes that only carrying out a directive needs. -/
def directiveAttributes (settings : Settings) : List String :=
  [settings.directive, contentAttribute, layoutAttribute]

/-- Those attributes are taken away wherever they stand; all others stay in their order. -/
theorem withoutDirective_eq (settings : Settings) (element : Element) :
    withoutDirective settings element =
      { element with
        attributes := element.attributes.filter fun pair =>
          pair.1 ∉ directiveAttributes settings } := by
  simp only [withoutDirective, Element.without, List.filter_filter, directiveAttributes]
  congr 2
  funext pair
  rw [Bool.eq_iff_iff]
  simp only [Bool.and_eq_true, bne_iff_ne, decide_eq_true_eq, List.mem_cons, List.not_mem_nil,
    or_false, not_or, ne_eq]
  -- The same three are left out, in the opposite order.
  constructor
  · rintro ⟨layout, content, directive⟩
    exact ⟨directive, content, layout⟩
  · rintro ⟨directive, content, layout⟩
    exact ⟨layout, content, directive⟩

/-- None of those attributes is on an element from which they were taken away. -/
theorem has_withoutDirective {settings : Settings} {name : String}
    (needed : name ∈ directiveAttributes settings) (element : Element) :
    (withoutDirective settings element).has name = false := by
  rw [withoutDirective_eq, Element.has, List.any_eq_false]
  intro pair kept
  have other := of_decide_eq_true (List.mem_filter.mp kept).2
  rw [beq_iff_eq]
  rintro rfl
  exact other needed

section Pass

variable {settings : Settings} {evaluator : Evaluator} {merger : Merger}
  {layout content : Option Element} {host : Context}

/-- Where the combined titles have a directive, the answer is what carrying it out leaves. -/
theorem answer_of_deferred {deferred : Element}
    (marked : (combine settings merger layout content).filter (·.has settings.directive) =
      some deferred) :
    (run settings evaluator merger layout content host).answer =
      (fill settings evaluator deferred (host.push (deferredSources settings deferred))).map
        fun filled => (some filled.element, passRecord filled.content filled.layout
          filled.result) := by
  rw [run_of_deferred marked]
  cases fill settings evaluator deferred (host.push (deferredSources settings deferred)) with
  | error error => rfl
  | ok filled => rfl

/-- A pass answers the combined titles as they are, or what carrying out their directive leaves. -/
theorem answer_eq_ok_iff {element : Option Element} {record : Record} :
    (run settings evaluator merger layout content host).answer = .ok (element, record) ↔
      ((combine settings merger layout content).filter (·.has settings.directive) = none ∧
        element = combine settings merger layout content ∧ record = {}) ∨
      ∃ deferred filled,
        (combine settings merger layout content).filter (·.has settings.directive) =
          some deferred ∧
        fill settings evaluator deferred (host.push (deferredSources settings deferred)) =
          .ok filled ∧
        element = some filled.element ∧
        record = passRecord filled.content filled.layout filled.result := by
  -- Whether there is a directive decides which of the two answers it is.
  cases found : (combine settings merger layout content).filter (·.has settings.directive) with
  | none => simp [run_of_merged found, eq_comm]
  | some deferred =>
    rw [answer_of_deferred found]
    cases carried : fill settings evaluator deferred
        (host.push (deferredSources settings deferred)) with
    | error error => simp [Except.map, carried]
    | ok filled => simp [Except.map, carried, eq_comm]

/-- A title that a directive was carried out on keeps its tag and its other attributes. -/
theorem filled_element {deferred : Element} {context : Context} {filled : Filled}
    (carried : fill settings evaluator deferred context = .ok filled) :
    filled.element = {
      tag := deferred.tag
      attributes := deferred.attributes.filter fun pair =>
        pair.1 ∉ directiveAttributes settings
      children := filled.result.spread } := by
  -- Carrying out sets the children, and takes attributes away; nothing else is changed.
  obtain ⟨-, -, -, same⟩ := (fill_eq_ok_iff filled).mp carried
  rw [same]
  simp only [filledWith, withoutDirective_eq, Element.withChildren]

/-- No attribute that only carrying out a directive needs is on the element that it leaves. -/
theorem has_filled_element {deferred : Element} {context : Context} {filled : Filled}
    {name : String} (needed : name ∈ directiveAttributes settings)
    (carried : fill settings evaluator deferred context = .ok filled) :
    filled.element.has name = false := by
  obtain ⟨-, -, -, same⟩ := (fill_eq_ok_iff filled).mp carried
  rw [same]
  exact has_withoutDirective needed deferred

/-- A pass refuses the combined titles exactly if they have a directive and are no title. -/
theorem answer_eq_wrongHost_iff (tag directive : String) :
    (run settings evaluator merger layout content host).answer =
        .error (.wrongHost tag directive) ↔
      ∃ deferred,
        (combine settings merger layout content).filter (·.has settings.directive) =
          some deferred ∧
        deferred.tag.toLower ≠ "title" ∧ tag = deferred.tag ∧ directive = settings.directive := by
  cases found : (combine settings merger layout content).filter (·.has settings.directive) with
  | none => simp [run_of_merged found]
  | some deferred =>
    have refused := @fill_eq_wrongHost_iff settings evaluator deferred
      (host.push (deferredSources settings deferred)) tag directive
    simp only [answer_of_deferred found, Option.some.injEq, exists_eq_left', ← refused]
    -- What is made of a filled title makes no difference to a failure.
    cases fill settings evaluator deferred (host.push (deferredSources settings deferred)) with
    | error error => simp [Except.map]
    | ok filled => simp [Except.map]

/-- Only a merger can make the directive stand on another element than a title. -/
theorem deferred_not_title_iff {deferred : Element} (other : deferred.tag.toLower ≠ "title") :
    (combine settings merger layout content).filter (·.has settings.directive) = some deferred ↔
      pattern? settings layout content = none ∧ merger layout content = some deferred ∧
        deferred.has settings.directive = true := by
  cases asked : pattern? settings layout content with
  | none => rw [combine, asked, Option.filter_eq_some_iff]; simp
  | some pattern =>
    -- A placeholder is a title, whatever the titles are that it was made for.
    have isTitle : (placeholder settings pattern layout content).tag.toLower = "title" :=
      (isTitleTag_iff "title").mp (by decide)
    rw [deferred_of_pattern merger asked]
    simp only [Option.some.injEq, reduceCtorEq, false_and, iff_false]
    rintro rfl
    exact other isTitle

/-- Combined titles that are the answer as they are have no directive. -/
theorem has_false_of_settled
    (settled : (combine settings merger layout content).filter (·.has settings.directive) = none)
    {title : Element} (combined : combine settings merger layout content = some title) :
    title.has settings.directive = false := by
  rw [combined, Option.filter_eq_none_iff] at settled
  exact Bool.eq_false_iff.mpr (settled title rfl)

/-- A pass refuses a directive exactly if the merger puts it on an element that is no title. -/
theorem answer_eq_wrongHost_iff_merger (tag directive : String) :
    (run settings evaluator merger layout content host).answer =
        .error (.wrongHost tag directive) ↔
      pattern? settings layout content = none ∧
        ∃ merged, merger layout content = some merged ∧
          merged.has settings.directive = true ∧ merged.tag.toLower ≠ "title" ∧
          tag = merged.tag ∧ directive = settings.directive := by
  -- Were the directive on one of the two titles, a title would be its host, and not refused.
  rw [answer_eq_wrongHost_iff]
  constructor
  · rintro ⟨deferred, found, other, known⟩
    obtain ⟨plain, merged, marked⟩ := (deferred_not_title_iff other).mp found
    exact ⟨plain, deferred, merged, marked, other, known⟩
  · rintro ⟨plain, deferred, merged, marked, other, known⟩
    exact ⟨deferred, (deferred_not_title_iff other).mpr ⟨plain, merged, marked⟩, other, known⟩

/-- With the merger of the library no directive is refused. -/
theorem answer_ne_wrongHost (tag directive : String) :
    (run settings evaluator Element.merge layout content host).answer ≠
      .error (.wrongHost tag directive) := by
  intro refused
  obtain ⟨plain, merged, merging, marked, -⟩ :=
    (answer_eq_wrongHost_iff_merger tag directive).mp refused
  -- The merged title would have the directive from one of two titles that lack it.
  obtain ⟨contentBare, layoutBare⟩ := (pattern?_eq_none_iff settings layout content).mp plain
  rw [Element.has_false_of_merge merging contentBare layoutBare] at marked
  exact Bool.false_ne_true marked

end Pass

/--
No directive is left on the title that a pass answers, whatever the merger and the evaluator are.

The record says something exactly if the combined titles had the directive. Then the answer has the
tag of the combined titles and, in their order, all attributes but those that carrying out the
directive needs, and its body is the title that is recorded. A directive is refused exactly if it is
not one of the two titles, but the merger, that put it on an element, and if that is no title. The
merger of the library puts it on none: the merged title has it only if one of the two titles has it.
-/
theorem directive_carried_out (settings : Settings) (evaluator : Evaluator) (merger : Merger)
    (layout content : Option Element) (host : Context) :
    (∀ element record,
      (run settings evaluator merger layout content host).answer = .ok (element, record) →
      (∀ title, element = some title → title.has settings.directive = false) ∧
      (record.values ≠ [] ↔ ∃ deferred,
        combine settings merger layout content = some deferred ∧
        deferred.has settings.directive = true) ∧
      (∀ deferred, combine settings merger layout content = some deferred →
        deferred.has settings.directive = true →
        ∃ title result, element = some title ∧
          record.title? Record.resultKey = some result ∧
          title.has "data-layout-content-title" = false ∧
          title.has "data-layout-decorator-title" = false ∧
          title.tag = deferred.tag ∧
          title.attributes = deferred.attributes.filter (fun pair =>
            pair.1 ∉ [settings.directive, "data-layout-content-title",
              "data-layout-decorator-title"]) ∧
          title.children = result.spread)) ∧
    (∀ tag directive,
      (run settings evaluator merger layout content host).answer =
          .error (.wrongHost tag directive) ↔
        content.any (·.has settings.directive) = false ∧
        layout.any (·.has settings.directive) = false ∧
        ∃ merged, merger layout content = some merged ∧
          merged.has settings.directive = true ∧ merged.tag.toLower ≠ "title" ∧
          tag = merged.tag ∧ directive = settings.directive) ∧
    (∀ merged, Element.merge layout content = some merged →
      merged.has settings.directive = true →
      content.any (·.has settings.directive) = true ∨
        layout.any (·.has settings.directive) = true) ∧
    (∀ tag directive,
      (run settings evaluator Element.merge layout content host).answer ≠
        .error (.wrongHost tag directive)) := by
  refine ⟨fun element record answered => ?_, fun tag directive => ?_,
    fun merged merging => (Element.has_of_merge merging).mp, answer_ne_wrongHost⟩
  · rcases answer_eq_ok_iff.mp answered with ⟨settled, rfl, rfl⟩ |
      ⟨deferred, filled, found, carried, rfl, rfl⟩
    · -- The combined titles are the answer because they have no directive.
      have bare : ∀ title, combine settings merger layout content = some title →
          title.has settings.directive = false := fun _ => has_false_of_settled settled
      refine ⟨bare, ?_, fun deferred combined marked => ?_⟩
      · simp only [ne_eq, not_true_eq_false, false_iff, not_exists, not_and, Bool.not_eq_true]
        exact bare
      · rw [bare deferred combined] at marked
        contradiction
    · obtain ⟨combined, marked⟩ := Option.filter_eq_some_iff.mp found
      have shown := filled_element carried
      refine ⟨?_, ?_, ?_⟩
      · rintro title same
        rw [← Option.some.inj same]
        exact has_filled_element (by simp [directiveAttributes]) carried
      · exact iff_of_true (List.cons_ne_nil _ _) ⟨deferred, combined, marked⟩
      · intro other same _
        obtain rfl := Option.some.inj (combined.symm.trans same)
        -- The answer is what was filled in, and its body is the title that is recorded.
        refine ⟨filled.element, filled.result, rfl, rfl, ?_, ?_, ?_⟩
        · exact has_filled_element (by simp [directiveAttributes, contentAttribute]) carried
        · exact has_filled_element (by simp [directiveAttributes, layoutAttribute]) carried
        · rw [shown]
          exact ⟨rfl, rfl, rfl⟩
  · rw [answer_eq_wrongHost_iff_merger, pattern?_eq_none_iff, and_assoc]

/-- A merger that puts the directive on an element twice, among other attributes. -/
def insistentMerger : Merger := fun _ _ => some {
  tag := "Title"
  attributes := [("id", "a"), ("layout:title-pattern", "x"), ("data-layout-content-title", "'y'"),
    ("class", "b"), ("layout:title-pattern", "z")]
  children := [.text "Old"] }

/-- What an insistent merger answers is carried out like any other title with the directive. -/
theorem directive_carried_out_insistent :
    ∃ title record,
      (run {} Expression.evaluate insistentMerger none none {}).answer =
        .ok (some title, record) ∧
      title.has "layout:title-pattern" = false ∧ record.values ≠ [] ∧ title.tag = "Title" ∧
      title.attributes = [("id", "a"), ("class", "b")] := by
  have answered : (run {} Expression.evaluate insistentMerger none none {}).answer =
      .ok (some {
          tag := "Title"
          attributes := [("id", "a"), ("class", "b")]
          children := [.text "y"] },
        passRecord (some (.text "y")) none (.text "y")) := by
    rfl
  -- No title has the directive to begin with: it is the merger that puts it on one.
  obtain ⟨kept, -⟩ := directive_carried_out {} Expression.evaluate insistentMerger none none {}
  obtain ⟨bare, recorded, processed⟩ := kept _ _ answered
  obtain ⟨title, _, same, -, -, -, tag, attributes, -⟩ := processed _ rfl (by decide)
  refine ⟨title, _, same ▸ answered, bare title same, recorded.mpr ⟨_, rfl, by decide⟩, tag, ?_⟩
  exact attributes.trans (by decide)

end Titling.Title
