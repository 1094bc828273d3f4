import Titling.Proofs.Title.Directive
import Titling.Proofs.Title.Pass
import Titling.Proofs.Title.Session

/-! The record over a session: it has the titles of the latest directive that was carried out. -/

namespace Titling.Title

open Titling.Markup
open Titling.Message

/-- The filled title of an answer, if a directive was carried out. -/
def Session.filled? : Session.Answer → Option Filled
  | .ok (.filled (.ok filled), _) => some filled
  | _ => none

/-- The record of a filled title, or the empty one if there is none. -/
def recordOf : Option Filled → Record
  | some filled => passRecord filled.content filled.layout filled.result
  | none => {}

/-- The latest of several filled titles. -/
def Session.latest? (answers : List Session.Answer) : Option Filled :=
  (answers.filterMap Session.filled?).getLast?

/-- The titles of a filled title take the places of all that was recorded before. -/
theorem update_recordOf (before : Option Filled) (filled : Filled) :
    (recordOf before).update filled.entries = recordOf (some filled) := by
  cases before <;> rfl

namespace Session

variable {bus : Bus}

/-- The filled title of the first answer is the latest only if no later answer has one. -/
theorem latest?_cons (answer : Answer) (rest : List Answer) :
    latest? (answer :: rest) = (latest? rest).or (filled? answer) := by
  -- An answer without a filled title is passed over.
  unfold latest?
  cases first : filled? answer with
  | none => simp [first]
  | some filled =>
    rw [List.filterMap_cons_some first, List.getLast?_cons]
    cases (rest.filterMap filled?).getLast? <;> rfl

/-- A task records the title that it fills, and nothing else. -/
theorem record_perform (session : Session) (task : Task) :
    (session.perform bus task).2.record =
      match filled? (session.perform bus task).1 with
      | some filled => session.record.update filled.entries
      | none => session.record := by
  rcases announced : announce session.latch bus task.perform.2 with ⟨_ | ⟨warned, emitted⟩, latch⟩
  · rw [perform_of_unsent announced]
    rfl
  · rw [perform_of_announced announced]
    -- Only a title that was filled has entries: a pass has a record of its own.
    match task.perform.1 with
    | .composed _ => rfl
    | .passed _ => rfl
    | .filled (.ok _) => rfl
    | .filled (.error _) => rfl

/-- After each task the record is that of the latest filled title, or of the one before them all. -/
theorem record_performAll (session : Session) (earlier : Option Filled)
    (known : session.record = recordOf earlier) (tasks : List Task) {place : Nat}
    {answer : Answer} {record : Record}
    (here : (performAll bus session tasks)[place]? = some (answer, record)) :
    record = recordOf
      ((latest? (((performAll bus session tasks).take (place + 1)).map Prod.fst)).or earlier) := by
  -- Induct over the tasks; the title that was the latest before them is carried along.
  induction tasks generalizing session earlier place with
  | nil => simp [performAll] at here
  | cons task rest ih =>
    -- What the first task leaves recorded is what the others start from.
    have next : (session.perform bus task).2.record =
        recordOf ((filled? (session.perform bus task).1).or earlier) := by
      rw [record_perform, known]
      cases filled? (session.perform bus task).1 with
      | none => rfl
      | some filled => exact update_recordOf earlier filled
    rw [performAll] at here ⊢
    rw [List.take_succ_cons, List.map_cons, latest?_cons, Option.or_assoc]
    cases place with
    | zero =>
      simp only [List.getElem?_cons_zero, Option.some.injEq, Prod.mk.injEq] at here
      rw [← here.2, next]
      rfl
    | succ place =>
      rw [List.getElem?_cons_succ] at here
      exact ih _ _ next here

/-- A directive that is not carried out leaves the session as it was. -/
theorem perform_of_failed_fill {settings : Settings} {evaluator : Evaluator} {element : Element}
    {context : Context} {error : Error}
    (failed : fill settings evaluator element context = .error error) (session : Session) :
    session.perform bus (.fill settings evaluator element context) =
      (.ok (.filled (.error error), []), session) := by
  -- A failure gives no notice, and it has nothing to record.
  have performed : (Task.fill settings evaluator element context).perform =
      (.filled (.error error), []) := by
    simp only [Task.perform, failed]
  rw [perform_of_quiet performed]
  rfl

end Session

/--
The record over a session has the titles of the latest directive that was carried out, or nothing.

It has them under the three keys in their order, with nothing left of an earlier title. A directive
is carried out on a title of which neither part fails; otherwise record and latch stay as they are.
It is refused exactly on other elements, whatever the evaluator is, so before anything is evaluated.
If the content title fails, its error is the answer, whatever the layout title is.
-/
theorem record_of_latest (bus : Bus) (latch : Latch) (tasks : List Task) :
    (∀ place answer record,
      (Session.performAll bus { latch } tasks)[place]? = some (answer, record) →
      record.values =
        match Session.latest? (((Session.performAll bus { latch } tasks).take (place + 1)).map
            Prod.fst) with
        | some filled =>
          [("contentTitle", filled.content), ("layoutTitle", filled.layout),
            ("resultingTitle", some filled.result)]
        | none => []) ∧
    (∀ settings evaluator element context filled,
      fill settings evaluator element context = .ok filled ↔
        element.tag.toLower = "title" ∧
        registered evaluator context contentName = .ok filled.content ∧
        registered evaluator context layoutName = .ok filled.layout ∧
        filled = filledWith settings element filled.content filled.layout) ∧
    (∀ settings evaluator element context error (session : Session),
      fill settings evaluator element context = .error error →
      session.perform bus (.fill settings evaluator element context) =
        (.ok (.filled (.error error), []), session)) ∧
    (∀ settings evaluator element context tag directive,
      fill settings evaluator element context = .error (.wrongHost tag directive) ↔
        element.tag.toLower ≠ "title" ∧ tag = element.tag ∧ directive = settings.directive) ∧
    (∀ settings evaluator element context error,
      element.tag.toLower = "title" →
      registered evaluator context contentName = .error error →
      fill settings evaluator element context = .error error) := by
  refine ⟨fun place answer record here => ?_, fun _ _ _ _ => fill_eq_ok_iff,
    fun _ _ _ _ _ session failed => Session.perform_of_failed_fill failed session,
    fun _ _ _ _ => fill_eq_wrongHost_iff, fun _ _ _ _ _ => fill_of_failed_content⟩
  -- Nothing is recorded before the first task.
  rw [Session.record_performAll { latch } none rfl tasks here, Option.or_none]
  cases Session.latest? (((Session.performAll bus { latch } tasks).take (place + 1)).map
    Prod.fst) <;> rfl

/-- Carrying out a directive where titles are registered. -/
def registeredTask (content layout : Source) : Task :=
  .fill {} Expression.evaluate (markedTitle "$LAYOUT_TITLE" [])
    (.ofLayer [(contentName, .source content), (layoutName, .source layout)])

/--
Behind a directive for which both titles fail, the record still has the titles of the one before it.
The answer is the error of the content title.
-/
theorem record_of_latest_behind_failure :
    ∃ record,
      (Session.performAll { find := fun _ => .ok "" } {}
        [registeredTask { model := some (.text "Home") } { model := some (.text "Site") },
          registeredTask { text := some "home" } { text := some "site" }])[1]? =
        some (.ok (.filled (.error (.evaluation ⟨"home", .unsupportedForm⟩)), []), record) ∧
      record.values =
        [("contentTitle", some (.text "Home")), ("layoutTitle", some (.text "Site")),
          ("resultingTitle", some (.fragment [.text "Site"]))] := by
  obtain ⟨latest, -, kept, -, first⟩ := record_of_latest { find := fun _ => .ok "" } {}
    [registeredTask { model := some (.text "Home") } { model := some (.text "Site") },
      registeredTask { text := some "home" } { text := some "site" }]
  have failed : fill {} Expression.evaluate (markedTitle "$LAYOUT_TITLE" [])
      (.ofLayer [(contentName, .source { text := some "home" }),
        (layoutName, .source { text := some "site" })]) =
      .error (.evaluation ⟨"home", .unsupportedForm⟩) :=
    first _ _ _ _ _ ((isTitleTag_iff "title").mp (by decide)) rfl
  refine ⟨_, ?_, latest 1 _ _ rfl⟩
  rw [Session.getElem?_performAll]
  exact congrArg (fun done => some (done.1, done.2.record)) (kept _ _ _ _ _ _ failed)

end Titling.Title
