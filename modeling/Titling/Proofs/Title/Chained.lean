import Titling.Proofs.Markup.Run
import Titling.Proofs.Title.InlineText

/-! Passes one after another: of a title that stands in several texts only the first is read. -/

namespace Titling.Title

open Titling.CharacterReference
open Titling.Markup

/-- Tells that two texts stand for the same characters. -/
def ReadAlike (first second : String) : Prop :=
  ∃ plain, decode? first = some plain ∧ decode? second = some plain

/-- The element that a title becomes has the text of the title. -/
theorem plainText_bareTitle (title : Node) : (bareTitle title).plainText = title.plainText :=
  Node.plainTextAll_spread title

/-- A pattern of the content token alone shows the content title, or else the layout title. -/
theorem plainText_compose_content (content : Option Node) (layout : Node) :
    (compose (some "$CONTENT_TITLE") content (some layout)).plainText =
      (content.getD layout).plainText := by
  -- The pattern counts only where there are two titles; one alone is shown as it is.
  cases content with
  | none => rfl
  | some content =>
    have segments : Segment.ofPattern "$CONTENT_TITLE" = [.token .content] := by decide
    simp [compose, segments, Segment.nodes, Node.plainText, Node.plainTextAll_spread]

section Kept

variable {settings : Settings} {layout content : Option Element} {host : Context}

/-- What inline text contributes reads as a whole exactly if the text does. -/
theorem readAlike_titleOfValue (escaping : settings.escapeTitles = true) (text whole : String) :
    (∃ title, titleOfValue settings text = .ok (some title) ∧ ReadAlike title.plainText whole) ↔
      ReadAlike text whole := by
  constructor
  · -- What is made of the text was escaped, so it reads as what the text was decoded to.
    rintro ⟨title, made, plain, first, second⟩
    obtain ⟨read, known, shown⟩ := (titleOfValue_eq_ok_iff escaping text _).mp made
    rw [Option.some.inj shown, Node.plainText, decode?_escapeTitle] at first
    exact ⟨plain, known.trans first, second⟩
  · -- Backwards, the title is what the decoded text becomes when it is escaped again.
    rintro ⟨plain, first, second⟩
    refine ⟨.text (escapeTitle plain), ?_, plain, decode?_escapeTitle plain, second⟩
    exact (titleOfValue_eq_ok_iff escaping text _).mpr ⟨plain, first, rfl⟩

/-- The first child of a title with inline text is that text. -/
theorem children_of_inlineText? {title : Element} {text : String}
    (inline : inlineText? title = some text) : ∃ rest, title.children = .text text :: rest := by
  unfold inlineText? at inline
  split at inline
  · rename_i content rest begins
    rw [Option.some.injEq] at inline
    exact ⟨rest, by rw [begins, inline]⟩
  · simp at inline

/-- A title without a text attribute is silent. -/
theorem silent_of_has_false {title : Element}
    (bare : title.has settings.textAttribute = false) : Silent settings title := by
  rw [Silent, Element.get?_of_has_false bare]
  rfl

/-- Of titles without a text attribute a pass makes one without it, and without a directive. -/
theorem bare_of_run {title : Element} {record : Record}
    (contentBare : content.any (·.has settings.textAttribute) = false)
    (layoutBare : layout.any (·.has settings.textAttribute) = false)
    (answered : (run settings Expression.evaluate Element.merge layout content host).answer =
      .ok (some title, record)) :
    title.has settings.directive = false ∧ title.has settings.textAttribute = false := by
  cases asked : pattern? settings layout content with
  | some pattern =>
    obtain ⟨contentTitle, layoutTitle, -, -, shown⟩ := contributions_of_run asked answered
    -- A composed title stands in an element without attributes.
    rw [Option.some.inj (congrArg Prod.fst shown)]
    exact ⟨rfl, rfl⟩
  | none =>
    rw [run_of_no_pattern _ _ asked, Except.ok.injEq, Prod.mk.injEq] at answered
    -- A merged title has the attributes of the two titles and no others.
    obtain ⟨contentUndirected, layoutUndirected⟩ := (pattern?_eq_none_iff _ _ _).mp asked
    exact ⟨Element.has_false_of_merge answered.1 contentUndirected layoutUndirected,
      Element.has_false_of_merge answered.1 contentBare layoutBare⟩

/-- Where nothing but the content token is asked for, a pass answers the content title if it can. -/
theorem run_content_iff {evaluator : Evaluator} {merger : Merger} {whole : String}
    (escaping : settings.escapeTitles = true)
    (asked : pattern? settings layout content = some "$CONTENT_TITLE")
    (present : (Side.layout.value? settings layout content).isSome) :
    (∃ title record,
      (run settings evaluator merger layout content host).answer = .ok (some title, record) ∧
      ReadAlike title.plainText whole) ↔
    ∃ outer, contribution settings evaluator layout content host .layout = .ok (some outer) ∧
      ∃ inner, contribution settings evaluator layout content host .content = .ok inner ∧
        ReadAlike (inner.getD outer).plainText whole := by
  constructor
  · -- An answer comes from two contributions, and that of the layout is a text.
    rintro ⟨title, record, answered, alike⟩
    obtain ⟨inner, shown, first, second, same⟩ := contributions_of_run asked answered
    obtain ⟨plain, rfl⟩ := contribution_of_value escaping present second
    rw [Option.some.inj (congrArg Prod.fst same), plainText_bareTitle,
      plainText_compose_content] at alike
    exact ⟨_, second, inner, first, alike⟩
  · -- Backwards, the two contributions are composed, and the pattern shows the inner one.
    rintro ⟨outer, second, inner, first, alike⟩
    refine ⟨_, _, run_of_contributions merger asked first second, ?_⟩
    rw [plainText_bareTitle, plainText_compose_content]
    exact alike

/-- A title with inline text is shown as a whole exactly if its first text reads as the whole. -/
theorem contribution_inlineText_iff {title : Element} {text whole : String} {side : Side}
    (escaping : settings.escapeTitles = true) (here : side.of layout content = some title)
    (bare : title.has settings.textAttribute = false) (inline : inlineText? title = some text)
    (outer : Node) :
    (∃ inner,
      contribution settings Expression.evaluate layout content host side = .ok inner ∧
      ReadAlike (inner.getD outer).plainText whole) ↔ ReadAlike text whole := by
  -- Inline text always makes a title, so the outer one is never the one shown.
  obtain ⟨rest, begins⟩ := children_of_inlineText? inline
  rw [contribution_of_inlineText host here (silent_of_has_false bare) begins,
    ← readAlike_titleOfValue escaping]
  constructor
  · -- What the text makes is a title, so there is one to be shown.
    rintro ⟨inner, made, alike⟩
    obtain ⟨plain, -, rfl⟩ := (titleOfValue_eq_ok_iff escaping text inner).mp made
    exact ⟨_, made, alike⟩
  · rintro ⟨inner, made, alike⟩
    exact ⟨some inner, made, alike⟩

end Kept

/--
What a pass keeps of the text of a title, where titles are escaped.

A title that a first pass answers is shown again as a whole exactly if its first text reads as the
whole, and if the other title, of which nothing is shown, can be evaluated. The same first text is
what a pass records for any title without a text attribute. A title that begins with no text has no
value, so the title that is registered for it takes its place, or else the one of the layout.
-/
theorem text_kept_iff {settings : Settings} (escaping : settings.escapeTitles = true) :
    (∀ (layout content : Option Element) (host : Context) (title : Element) (record : Record)
        (outer : Element) (outerHost : Context),
      content.any (·.has settings.textAttribute) = false →
      layout.any (·.has settings.textAttribute) = false →
      (run settings Expression.evaluate Element.merge layout content host).answer =
        .ok (some title, record) →
      outer.get? settings.directive = some "$CONTENT_TITLE" →
      (expression? settings outer).isSome →
      ((∃ again recorded,
          (run settings Expression.evaluate Element.merge (some outer) (some title)
            outerHost).answer = .ok (some again, recorded) ∧
          ReadAlike again.plainText title.plainText) ↔
        ∃ other,
          contribution settings Expression.evaluate (some outer) (some title) outerHost .layout =
            .ok (some other) ∧
          match inlineText? title with
          | some text => ReadAlike text title.plainText
          | none => ∃ shown,
              contribution settings Expression.evaluate (some outer) (some title) outerHost
                .content = .ok shown ∧
              ReadAlike (shown.getD other).plainText title.plainText)) ∧
    (∀ (layout : Option Element) (title : Element) (host : Context) (element : Option Element)
        (record : Record),
      title.has settings.textAttribute = false →
      (pattern? settings layout (some title)).isSome →
      (run settings Expression.evaluate Element.merge layout (some title) host).answer =
        .ok (element, record) →
      ((∃ shown, record.get? Record.contentKey = some (some shown) ∧
          ReadAlike shown.plainText title.plainText) ↔
        match inlineText? title with
        | some text => ReadAlike text title.plainText
        | none => ∃ shown,
            contribution settings Expression.evaluate layout (some title) host .content =
              .ok (some shown) ∧
            ReadAlike shown.plainText title.plainText)) := by
  constructor
  · intro layout content host title record outer outerHost contentBare layoutBare answered asks
      present
    obtain ⟨undirected, bare⟩ := bare_of_run contentBare layoutBare answered
    -- The first pass leaves no directive behind, so the pattern is the one of the outer title.
    have asked : pattern? settings (some outer) (some title) = some "$CONTENT_TITLE" := by
      rw [pattern?_eq_or, Option.bind_some, Element.get?_of_has_false undirected, Option.none_or,
        Option.bind_some, asks]
    -- The layout contributes in any case, and the content decides what is shown.
    rw [run_content_iff escaping asked present]
    cases inline : inlineText? title with
    | none => rfl
    | some text =>
      refine exists_congr fun other => and_congr_right fun _ => ?_
      exact contribution_inlineText_iff escaping rfl bare inline other
  · intro layout title host element record bare asked answered
    obtain ⟨pattern, known⟩ := Option.isSome_iff_exists.mp asked
    obtain ⟨inner, outer, first, -, same⟩ := contributions_of_run known answered
    have recorded : record.get? Record.contentKey = some inner := by
      rw [(Prod.mk.inj same).2]
      rfl
    rw [recorded]
    cases inline : inlineText? title with
    | none => simp [first]
    | some text =>
      -- What is recorded was made of the first text alone.
      obtain ⟨rest, begins⟩ := children_of_inlineText? inline
      rw [contribution_of_inlineText host rfl (silent_of_has_false bare) begins] at first
      refine Iff.trans ?_ (readAlike_titleOfValue escaping text title.plainText)
      rw [first]
      simp

/-- A title of one text goes through a second pass, and into the record of it, as a whole. -/
theorem text_kept_single :
    (∃ again recorded,
      (run {} Expression.evaluate Element.merge (some (markedTitle "$CONTENT_TITLE" ["Top"]))
        (some (inlineTitle ["Home"])) {}).answer = .ok (some again, recorded) ∧
      ReadAlike again.plainText (inlineTitle ["Home"]).plainText) ∧
    ∃ element record,
      (run {} Expression.evaluate Element.merge (some (markedTitle "$CONTENT_TITLE" ["Top"]))
        (some (inlineTitle ["Home"])) {}).answer = .ok (element, record) ∧
      ∃ shown, record.get? Record.contentKey = some (some shown) ∧
        ReadAlike shown.plainText (inlineTitle ["Home"]).plainText := by
  obtain ⟨chained, recorded⟩ := text_kept_iff (rfl : ({} : Settings).escapeTitles = true)
  have merged : (run {} Expression.evaluate Element.merge (some (inlineTitle ["Site"]))
      (some (inlineTitle ["Home"])) {}).answer = .ok (some (inlineTitle ["Home"]), {}) := by
    decide +kernel
  have second : (run {} Expression.evaluate Element.merge
      (some (markedTitle "$CONTENT_TITLE" ["Top"])) (some (inlineTitle ["Home"])) {}).answer =
        .ok (some (inlineTitle ["Home"]),
          passRecord (some (.text "Home")) (some (.text "Top")) (.fragment [.text "Home"])) := by
    decide +kernel
  -- The first text of the title is all of it.
  have whole : ReadAlike "Home" (inlineTitle ["Home"]).plainText :=
    ⟨"Home", by decide +kernel, by decide +kernel⟩
  constructor
  · have kept := chained _ _ {} _ _ (markedTitle "$CONTENT_TITLE" ["Top"]) {} (by decide)
      (by decide) merged (by decide) (by decide)
    exact kept.mpr ⟨.text "Top", by decide +kernel, whole⟩
  · exact ⟨_, _, second, (recorded _ _ {} _ _ (by decide) (by decide) second).mpr whole⟩

/-- A title composed of several texts loses all but the first of them in a second pass. -/
theorem text_lost :
    (run {} Expression.evaluate Element.merge
      (some (markedTitle "$LAYOUT_TITLE - $CONTENT_TITLE" ["Site"]))
      (some (inlineTitle ["Home"])) {}).answer =
        .ok (some (inlineTitle ["Site", " - ", "Home"]),
          passRecord (some (.text "Home")) (some (.text "Site"))
            (.fragment [.text "Site", .text " - ", .text "Home"])) ∧
    (run {} Expression.evaluate Element.merge (some (markedTitle "$CONTENT_TITLE" ["Top"]))
      (some (inlineTitle ["Site", " - ", "Home"])) {}).answer =
        .ok (some (inlineTitle ["Site"]),
          passRecord (some (.text "Site")) (some (.text "Top")) (.fragment [.text "Site"])) ∧
    ¬ ReadAlike (inlineTitle ["Site"]).plainText
      (inlineTitle ["Site", " - ", "Home"]).plainText := by
  refine ⟨by decide +kernel, by decide +kernel, ?_⟩
  -- The two titles decode to different texts.
  rintro ⟨plain, first, second⟩
  have short : decode? (inlineTitle ["Site"]).plainText = some "Site" := by decide +kernel
  have long : decode? (inlineTitle ["Site", " - ", "Home"]).plainText = some "Site - Home" := by
    decide +kernel
  rw [short, Option.some.injEq] at first
  rw [long, ← first] at second
  exact absurd second (by decide)

end Titling.Title
