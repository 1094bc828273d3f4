import Titling.Proofs.Title.Directive
import Titling.Proofs.Title.Pass
import Titling.Proofs.Title.Pattern
import Titling.Proofs.Title.Session

/-! The warning of the deprecated token: which task sends it, and that it changes nothing else. -/

namespace Titling.Title

open Titling.Markup
open Titling.Message

/-- Tells that carrying out a directive gets as far as composing a title by a pattern. -/
structure Fills (settings : Settings) (evaluator : Evaluator) (element : Element)
    (context : Context) (pattern : Option String) : Prop where
  host : element.tag.toLower = "title"
  content : ∃ title, registered evaluator context contentName = .ok title
  layout : ∃ title, registered evaluator context layoutName = .ok title
  asked : element.get? settings.directive = pattern

/-- Tells that a task gets as far as composing a title by a pattern. -/
def Task.Composes : Task → Option String → Prop
  | .compose given _ _, pattern => given = pattern
  | .fill settings evaluator element context, pattern =>
    Fills settings evaluator element context pattern
  | .pass settings evaluator merger layout content context, pattern =>
    -- Only an element with a directive is filled; a merger may answer one, too.
    ∃ deferred, combine settings merger layout content = some deferred ∧
      deferred.has settings.directive = true ∧
      Fills settings evaluator deferred (context.push (deferredSources settings deferred)) pattern

/-- Tells that a task composes a title by a pattern with the deprecated token in it. -/
def Task.Mentions (task : Task) : Prop :=
  ∃ pattern, task.Composes (some pattern) ∧ .token .decorator ∈ Segment.ofPattern pattern

/-- Tells that a task fails to make a title. -/
def Task.Fails (task : Task) : Prop :=
  ∃ error, task.perform.1 = .filled (.error error) ∨ task.perform.1 = .passed (.error error)

/-- Tells that the task in a place is the first one to compose by the deprecated token. -/
def FirstMention (tasks : List Task) (place : Nat) : Prop :=
  (∃ task, tasks[place]? = some task ∧ task.Mentions) ∧
    ∀ task ∈ tasks.take place, ¬ task.Mentions

/-- Tells that carrying out a task in a session sends the warning. -/
def Session.Warns (bus : Bus) (session : Session) (task : Task) : Prop :=
  ∃ emitted, (announce session.latch bus task.perform.2).1 = .ok (true, emitted)

/-- There is notice of the token where a title is composed by a pattern that has it. -/
theorem mem_composeNotices_iff (pattern : Option String) :
    .deprecatedToken ∈ composeNotices pattern ↔
      ∃ given, pattern = some given ∧ .token .decorator ∈ Segment.ofPattern given := by
  -- Without a pattern nothing is mentioned, and with one it has the token or not.
  cases pattern with
  | none => simp [composeNotices, asksForNotice]
  | some given =>
    by_cases mentioned : mentionsDeprecated given = true
    · simp [composeNotices, asksForNotice, mentioned, ← mentionsDeprecated_iff]
    · simp [composeNotices, asksForNotice, mentioned, ← mentionsDeprecated_iff]

section Fill

variable {settings : Settings} {evaluator : Evaluator} {element : Element} {context : Context}

/-- A title is composed where a directive is carried out. -/
theorem fills_iff (pattern : Option String) :
    Fills settings evaluator element context pattern ↔
      (∃ filled, fill settings evaluator element context = .ok filled) ∧
        element.get? settings.directive = pattern := by
  constructor
  · -- The conditions are those under which the directive is carried out.
    rintro ⟨host, ⟨content, first⟩, ⟨layout, second⟩, asked⟩
    exact ⟨⟨_, fill_of_registered host first second⟩, asked⟩
  · rintro ⟨⟨filled, carried⟩, asked⟩
    obtain ⟨host, first, second, -⟩ := (fill_eq_ok_iff filled).mp carried
    exact ⟨host, ⟨_, first⟩, ⟨_, second⟩, asked⟩

/-- A filled title gives notice of the token if it was composed by a pattern that has it. -/
theorem mem_notices_iff {filled : Filled}
    (carried : fill settings evaluator element context = .ok filled) :
    .deprecatedToken ∈ filled.notices ↔
      ∃ pattern, Fills settings evaluator element context (some pattern) ∧
        .token .decorator ∈ Segment.ofPattern pattern := by
  obtain ⟨-, -, -, same⟩ := (fill_eq_ok_iff filled).mp carried
  -- Beside that of composing, there is only notice of the title that came out.
  have composed : .deprecatedToken ∈ filled.notices ↔
      .deprecatedToken ∈ composeNotices (element.get? settings.directive) := by
    rw [same]
    simp [filledWith]
  rw [composed, mem_composeNotices_iff]
  simp only [fills_iff, carried, Except.ok.injEq, exists_eq', true_and]

/-- Where a directive is not carried out, no title is composed. -/
theorem not_fills {error : Error} (failed : fill settings evaluator element context = .error error)
    (pattern : Option String) : ¬ Fills settings evaluator element context pattern := by
  simp [fills_iff, failed]

end Fill

section Pass

variable {settings : Settings} {evaluator : Evaluator} {merger : Merger}
  {layout content : Option Element} {context : Context}

/-- Combining titles gives no notice of the token. -/
theorem combineNotice_ne (settings : Settings) (layout content : Option Element) :
    combineNotice settings layout content ≠ .deprecatedToken := by
  unfold combineNotice
  cases pattern? settings layout content <;> simp

/-- A pass with a directive composes a title if each side contributes to it. -/
theorem composes_pass_of_pattern {given : String}
    (asked : pattern? settings layout content = some given) (pattern : Option String) :
    (Task.pass settings evaluator merger layout content context).Composes pattern ↔
      some given = pattern ∧
        ∀ side : Side, ∃ title,
          contribution settings evaluator layout content context side = .ok title := by
  have deferred := combine_of_pattern merger asked
  -- The placeholder is filled in the context of the pass, and both titles are looked for there.
  have ofContent := registered_passContext settings evaluator layout content context .content
  have ofLayout := registered_passContext settings evaluator layout content context .layout
  simp only [Side.name, passContext] at ofContent ofLayout
  constructor
  · -- What is combined is the placeholder, so the conditions are about that.
    rintro ⟨element, same, -, host, first, second, shown⟩
    obtain rfl := Option.some.inj (deferred.symm.trans same)
    rw [deferredSources_placeholder] at first second
    rw [placeholder_get?_directive] at shown
    refine ⟨shown, fun side => ?_⟩
    cases side with
    | content => exact ofContent ▸ first
    | layout => exact ofLayout ▸ second
  · rintro ⟨shown, contributes⟩
    refine ⟨_, deferred, has_directive_placeholder settings given layout content,
      (isTitleTag_iff "title").mp (by decide), ?_, ?_, ?_⟩
    · rw [deferredSources_placeholder, ofContent]
      exact contributes .content
    · rw [deferredSources_placeholder, ofLayout]
      exact contributes .layout
    · rw [placeholder_get?_directive, shown]

/-- A pass without a directive composes no title. -/
theorem not_composes_pass (plain : pattern? settings layout content = none)
    (pattern : Option String) :
    ¬ (Task.pass settings evaluator Element.merge layout content context).Composes pattern := by
  rintro ⟨element, same, marked, -⟩
  rw [combine, plain] at same
  obtain ⟨contentBare, layoutBare⟩ := (pattern?_eq_none_iff _ _ _).mp plain
  -- The merged title has the directive only if one of the two has it.
  simp [Element.has_false_of_merge same contentBare layoutBare] at marked

/-- A pass composes a title if there is a directive, and if each side contributes. -/
theorem composes_pass_iff (pattern : Option String) :
    (Task.pass settings evaluator Element.merge layout content context).Composes pattern ↔
      (content.any (·.has settings.directive) || layout.any (·.has settings.directive)) = true ∧
        pattern? settings layout content = pattern ∧
        ∀ side : Side, ∃ title,
          contribution settings evaluator layout content context side = .ok title := by
  -- There is a directive exactly where there is a pattern, which may be the empty one.
  rw [← isSome_pattern?]
  cases asked : pattern? settings layout content with
  | none => simp [not_composes_pass asked]
  | some given => simp [composes_pass_of_pattern asked]

end Pass

/-- There is notice of the token exactly if a title is composed by a pattern that has it. -/
theorem Task.givesNotice_iff (task : Task) : task.GivesNotice ↔ task.Mentions := by
  unfold GivesNotice Mentions
  cases task with
  | compose pattern content layout => exact mem_composeNotices_iff pattern
  | fill settings evaluator element context =>
    cases carried : Title.fill settings evaluator element context with
    | error error => simp [perform, Composes, carried, not_fills carried]
    | ok filled => simpa [perform, Composes, carried] using mem_notices_iff carried
  | pass settings evaluator merger layout content context =>
    have other := combineNotice_ne settings layout content
    cases marked : (combine settings merger layout content).filter (·.has settings.directive) with
    | none =>
      -- Nothing is deferred, so merging is all that there is notice of.
      have bare : ∀ deferred, combine settings merger layout content = some deferred →
          deferred.has settings.directive = false := by
        simpa using Option.filter_eq_none_iff.mp marked
      simp only [perform, run_of_merged marked, Composes]
      constructor
      · intro notice
        exact absurd (List.mem_singleton.mp notice).symm other
      · rintro ⟨pattern, ⟨deferred, same, has, -⟩, -⟩
        simp [bare deferred same] at has
    | some deferred =>
      obtain ⟨same, has⟩ := Option.filter_eq_some_iff.mp marked
      simp only [perform, run_of_deferred marked, Composes, same, Option.some.injEq,
        exists_eq_left', has, true_and]
      cases carried : Title.fill settings evaluator deferred
          (context.push (deferredSources settings deferred)) with
      | error error => simp [Ne.symm other, not_fills carried]
      | ok filled => simpa [Ne.symm other] using mem_notices_iff carried

/-- A task that fails does so before any title is composed. -/
theorem Task.not_mentions_of_fails {task : Task} (fails : task.Fails) : ¬ task.Mentions := by
  obtain ⟨error, failed⟩ := fails
  rintro ⟨pattern, composes, -⟩
  -- Composing from given parts cannot fail, and the other tasks compose only where nothing fails.
  cases task with
  | compose pattern content layout => simp [perform] at failed
  | fill settings evaluator element context =>
    cases carried : Title.fill settings evaluator element context with
    | error error => exact not_fills carried _ composes
    | ok filled => simp [perform, carried] at failed
  | pass settings evaluator merger layout content context =>
    obtain ⟨deferred, same, has, fills⟩ := composes
    have marked : (combine settings merger layout content).filter (·.has settings.directive) =
        some deferred :=
      Option.filter_eq_some_iff.mpr ⟨same, has⟩
    cases carried : Title.fill settings evaluator deferred
        (context.push (deferredSources settings deferred)) with
    | error error => exact not_fills carried _ fills
    | ok filled => simp [perform, run_of_deferred marked, carried] at failed

section Sending

variable {bus : Bus} {sent : List Emission}

/-- A session sends the warning for a task that mentions the token, unless it is noted already. -/
theorem Session.warns_iff (delivers : bus.send .warning Catalog.deprecatedToken [] = .ok sent)
    (session : Session) (task : Task) :
    session.Warns bus task ↔
      session.latch.isSet Catalog.deprecatedToken = false ∧ task.Mentions := by
  rw [← task.givesNotice_iff]
  -- There is notice of the token exactly where a task mentions it.
  constructor
  · rintro ⟨emitted, announced⟩
    by_cases notice : task.GivesNotice
    · -- There is notice, so only the latch could have held the warning back.
      cases known : session.latch.isSet Catalog.deprecatedToken with
      | false => exact ⟨rfl, notice⟩
      | true => simp [announce_of_isSet known, silent] at announced
    · simp [announce_of_not_mem notice, silent] at announced
  · rintro ⟨unknown, notice⟩
    exact ⟨sent, congrArg Prod.fst (announce_of_first delivers notice unknown)⟩

/-- A task answers its product in every session, and adds the same to the record. -/
theorem Session.perform_answer (delivers : bus.send .warning Catalog.deprecatedToken [] = .ok sent)
    (session : Session) (task : Task) :
    ∃ emitted,
      (session.perform bus task).1 = .ok (task.perform.1, emitted) ∧
      (session.perform bus task).2.record = session.record.update task.perform.1.entries ∧
      (session.Warns bus task → emitted = sent) ∧ (¬ session.Warns bus task → emitted = []) := by
  by_cases warns : session.Warns bus task
  · obtain ⟨unknown, mentions⟩ := (warns_iff delivers session task).mp warns
    have notice := task.givesNotice_iff.mpr mentions
    rw [perform_of_announced (announce_of_first delivers notice unknown)]
    exact ⟨sent, rfl, rfl, fun _ => rfl, fun quiet => absurd warns quiet⟩
  · -- Either there is no notice of the token, or it is noted already.
    have announced : announce session.latch bus task.perform.2 = (silent, session.latch) := by
      by_cases notice : task.GivesNotice
      · refine announce_of_isSet ((Bool.not_eq_false _).mp fun unknown => warns ?_)
        exact (warns_iff delivers session task).mpr ⟨unknown, task.givesNotice_iff.mp notice⟩
      · exact announce_of_not_mem notice
    rw [perform_of_announced announced]
    exact ⟨[], rfl, rfl, fun sends => absurd sends warns, fun _ => rfl⟩

/-- The token is not noted as long as no task has mentioned it. -/
theorem Session.isSet_after_eq_false_iff (tasks : List Task) :
    (after bus {} tasks).latch.isSet Catalog.deprecatedToken = false ↔
      ∀ task ∈ tasks, ¬ task.Mentions := by
  rw [isSet_after]
  simp [Latch.isSet, Task.givesNotice_iff]

/--
The warning of the deprecated token is sent by the first task that composes a title by a pattern
with the token, and by no other one.

A given pattern counts whatever titles are there. A pass counts if there is a directive and each
side contributes; one that fails does not warn, and leaves the warning to a later task. Whether the
warning has been sent changes no product: each is that of the task on its own, with nothing noted.
-/
theorem warned_at_first_mention
    (delivers : bus.send .warning Catalog.deprecatedToken [] = .ok sent) (tasks : List Task) :
    (∀ place task, tasks[place]? = some task →
      let before := Session.after bus {} (tasks.take place)
      (before.Warns bus task ↔ FirstMention tasks place) ∧
      ∃ emitted record,
        (Session.performAll bus {} tasks)[place]? =
          some (.ok (task.perform.1, emitted), record) ∧
        (FirstMention tasks place → emitted = sent) ∧
        (¬ FirstMention tasks place → emitted = []) ∧
        ∃ alone, Session.performAll bus { record := before.record } [task] =
          [(.ok (task.perform.1, alone), record)]) ∧
    (∀ pattern, mentionsDeprecated pattern = true ↔
      .token .decorator ∈ Segment.ofPattern pattern) ∧
    (∀ settings evaluator layout content context pattern,
      (Task.pass settings evaluator Element.merge layout content context).Composes pattern ↔
        (content.any (·.has settings.directive) || layout.any (·.has settings.directive)) = true ∧
          pattern? settings layout content = pattern ∧
          ∀ side : Side, ∃ title,
            contribution settings evaluator layout content context side = .ok title) ∧
    (∀ task : Task, task.Fails → ¬ task.Mentions) := by
  refine ⟨fun place task here => ?_, mentionsDeprecated_iff, fun _ _ _ _ _ => composes_pass_iff,
    fun _ => Task.not_mentions_of_fails⟩
  intro before
  -- The token is noted before a place exactly if a task before it mentions the token.
  have warns : before.Warns bus task ↔ FirstMention tasks place := by
    rw [Session.warns_iff delivers, Session.isSet_after_eq_false_iff, FirstMention, here]
    simp [and_comm]
  refine ⟨warns, ?_⟩
  rw [← warns, Session.getElem?_performAll, here]
  obtain ⟨emitted, answered, recorded, loud, quiet⟩ := before.perform_answer delivers task
  -- On its own the task finds the same record, and nothing noted.
  obtain ⟨alone, answers, records, -⟩ :=
    Session.perform_answer delivers { record := before.record } task
  refine ⟨emitted, before.record.update task.perform.1.entries, ?_, loud, quiet, alone, ?_⟩
  · rw [Option.map_some, ← recorded, ← answered]
  · simp only [Session.performAll, answers, records]

end Sending

/-- A bus that collects its messages, and has one text for all of them. -/
def collectingBus : Bus where
  renderer := some .collecting
  find := fun _ => .ok "deprecated"

/-- An evaluator that has no value for anything. -/
def refusingEvaluator : Evaluator :=
  fun expression _ => .error (.evaluation ⟨expression, .unsupportedForm⟩)

/-- Behind a pass that fails on a pattern with the token, composing by one still warns. -/
theorem warned_at_first_mention_behind_failure :
    collectingBus.send .warning Catalog.deprecatedToken [] =
      .ok [.collected .warning "deprecated"] ∧
    ∃ record, (Session.performAll collectingBus {}
        [.pass {} refusingEvaluator Element.merge (some (markedTitle "$DECORATOR_TITLE" ["Site"]))
          none {},
          .compose (some "$$DECORATOR_TITLE") none none])[1]? =
      some (.ok (.composed (.fragment []), [.collected .warning "deprecated"]), record) := by
  have delivers : collectingBus.send .warning Catalog.deprecatedToken [] =
      .ok [.collected .warning "deprecated"] := by
    rfl
  obtain ⟨warned, -, -, failing⟩ := warned_at_first_mention delivers
    [.pass {} refusingEvaluator Element.merge (some (markedTitle "$DECORATOR_TITLE" ["Site"]))
      none {},
      .compose (some "$$DECORATOR_TITLE") none none]
  obtain ⟨-, emitted, record, answered, loud, -⟩ := warned 1 _ rfl
  refine ⟨delivers, record, ?_⟩
  rw [answered, loud]
  · rfl
  · refine ⟨⟨_, rfl, "$$DECORATOR_TITLE", rfl, by decide⟩, fun task before => ?_⟩
    -- The pass before it fails on the layout title, which the evaluator has no value for.
    obtain rfl := List.mem_singleton.mp before
    refine failing _ ⟨.evaluation ⟨"'Site'", .unsupportedForm⟩, .inr ?_⟩
    exact congrArg Product.passed (by rfl)

end Titling.Title
