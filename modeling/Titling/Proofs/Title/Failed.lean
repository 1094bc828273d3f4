import Titling.Proofs.CharacterReference.Overlong
import Titling.Proofs.Title.Warning

/-! Passes that fail: one of the sides does, and no title is composed before it. -/

namespace Titling.Title

open Titling.CharacterReference
open Titling.Markup

section Failure

variable {settings : Settings} {evaluator : Evaluator} {layout content : Option Element}
  {host : Context} {error : Error}

/--
Tells how a pass fails: the evaluator fails on the expression of a side, or gives a value that
cannot be read, as a decimal reference in it is overlong.
-/
inductive FailsBy (settings : Settings) (evaluator : Evaluator) (layout content : Option Element)
    (host : Context) : Error → Prop where
  | evaluator {side : Side} {expression : String} {cause : Failure}
      (own : side.value? settings layout content = some expression)
      (failed : evaluator expression (passContext settings layout content host) = .error cause) :
      FailsBy settings evaluator layout content host (.ofFailure cause)
  | overlong {side : Side} {expression value : String}
      (own : side.value? settings layout content = some expression)
      (evaluated : evaluator expression (passContext settings layout content host) = .ok value)
      (unread : Overlong value.toList) :
      FailsBy settings evaluator layout content host .overlongReference

/-- Where the page registers no titles, a side fails by its own expression. -/
theorem failsBy_of_contribution {side : Side} (sourceless : ∀ name, host.source? name = none)
    (failed : contribution settings evaluator layout content host side = .error error) :
    FailsBy settings evaluator layout content host error := by
  -- Without an expression of its own a side has no source here, and then it cannot fail.
  cases own : side.value? settings layout content with
  | none => simp [contribution, own, sourceless] at failed
  | some expression =>
    cases evaluated : evaluator expression (passContext settings layout content host) with
    | error cause =>
      rw [contribution_of_failed own evaluated, Except.error.injEq] at failed
      exact failed ▸ .evaluator own evaluated
    | ok value =>
      rw [contribution_of_evaluated own evaluated, titleOfValue] at failed
      cases decoded : decode? value with
      | some text => simp [decoded] at failed
      | none =>
        rw [decoded, Except.error.injEq] at failed
        exact failed ▸ .overlong own evaluated ((decode?_eq_none_iff value).mp decoded)

/-- A pass fails as one of the sides does. -/
theorem exists_contribution_of_run
    (failed : (run settings evaluator Element.merge layout content host).answer = .error error) :
    ∃ side, contribution settings evaluator layout content host side = .error error := by
  -- The content is evaluated first, so the layout can only fail where the content does not.
  cases asked : pattern? settings layout content with
  | none => simp [run_of_no_pattern evaluator host asked] at failed
  | some pattern =>
    rw [run_of_pattern evaluator Element.merge host asked] at failed
    cases first : contribution settings evaluator layout content host .content with
    | error reason =>
      simp only [first, Bind.bind, Except.bind, Except.error.injEq] at failed
      exact ⟨.content, failed ▸ first⟩
    | ok contentTitle =>
      cases second : contribution settings evaluator layout content host .layout with
      | error reason =>
        simp only [first, second, Bind.bind, Except.bind, Except.error.injEq] at failed
        exact ⟨.layout, failed ▸ second⟩
      | ok layoutTitle =>
        simp [first, second, Bind.bind, Except.bind, Pure.pure, Except.pure] at failed

/-- Where the page registers no titles, a pass fails by the expression of a side. -/
theorem failsBy_of_run (sourceless : ∀ name, host.source? name = none)
    (failed : (run settings evaluator Element.merge layout content host).answer = .error error) :
    FailsBy settings evaluator layout content host error := by
  obtain ⟨side, contributes⟩ := exists_contribution_of_run failed
  exact failsBy_of_contribution sourceless contributes

/-- A pass that fails has given no notice of the deprecated token. -/
theorem deprecatedToken_not_mem_of_run {merger : Merger}
    (failed : (run settings evaluator merger layout content host).answer = .error error) :
    .deprecatedToken ∉ (run settings evaluator merger layout content host).notices := by
  -- Of the notices, only those of filling in a deferred element could be of the token.
  cases marked : (combine settings merger layout content).filter (·.has settings.directive) with
  | none => simp [run_of_merged marked] at failed
  | some deferred =>
    rw [run_of_deferred marked] at failed ⊢
    cases carried : fill settings evaluator deferred
        (host.push (deferredSources settings deferred)) with
    | ok filled => simp [carried] at failed
    | error reason => simp [Ne.symm (combineNotice_ne settings layout content)]

end Failure

end Titling.Title
